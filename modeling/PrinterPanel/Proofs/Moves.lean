import PrinterPanel.Proofs.Browsing
import PrinterPanel.Proofs.Report
import PrinterPanel.Proofs.Stepping

/-!
# Moves of the panel

Everything that keys, messages and reports do to the panel is made of a few moves. They are listed
here once, as the things that an invariant has to survive, and each way to handle a key and each
change for a report is shown to be made of them.
-/

namespace PrinterPanel

open Menu

/-! ### What opens an editor -/

namespace Menu

/-- Whether a press on an entry of the prepare menu opens a field. -/
def PrepareItem.opens : PrepareItem → Field → Bool
  | zOffset, .zOffset => true
  | _, _ => false

/-- Whether a press on an entry of the axis menu opens a field. The extruder is moved from where it
stands, and not as an axis. -/
def AxisItem.opens : AxisItem → Field → Bool
  | x, .axis .x | y, .axis .y | z, .axis .z | e, .extruder _ => true
  | _, _ => false

/-- Whether a press on an entry of the temperature menu opens a field. -/
def TemperatureItem.opens : TemperatureItem → Field → Bool
  | hotend, .hotend .live | bed, .bed .live | fan, .fan .live => true
  | _, _ => false

/-- Whether a press on an entry of the tune menu opens a field. -/
def TuneItem.opens : TuneItem → Field → Bool
  | speed, .printSpeed | hotend, .hotend .live | bed, .bed .live | fan, .fan .live
  | zOffset, .zOffset => true
  | _, _ => false

/-- Whether a press on an entry of the menu of a preset opens a field. -/
def PreheatItem.opens (m : Material) : PreheatItem → Field → Bool
  | hotend, .hotend (.preset n) | bed, .bed (.preset n) | fan, .fan (.preset n) => m = n
  | _, _ => false

end Menu

/-- Whether a press on the entry at a position of a list opens a field. -/
def ListMenu.opens (f : Features) (position : Nat) (field : Field) : ListMenu → Bool
  | prepare => (PrepareItem.list f)[position]?.any (·.opens field)
  | axes => AxisItem.list[position]?.any (·.opens field)
  | temperature => (TemperatureItem.list f)[position]?.any (·.opens field)
  | tune => (TuneItem.list f)[position]?.any (·.opens field)
  | preset m => (PreheatItem.list f)[position]?.any (·.opens m field)
  | files | control | misc | motion => false

/-! ### The moves -/

namespace Panel

/-- No value is edited on the screen that is up. -/
def Free (p : Panel) : Prop := p.screen.isEditor → p.edit = none

/-- The ways to move a cursor. -/
inductive Moves (p : Panel) : Places → Prop where
  /-- A list is scrolled by one entry. -/
  | turn (m : ListMenu) (forwards : Bool) (free : p.Free) :
    Moves p (p.places.set m ((p.places.get m).step forwards (p.entryCount m)).2)
  /-- A list is opened at its start. -/
  | rewind (m : ListMenu) (free : p.Free) : Moves p (p.places.rewind m)
  /-- A list is opened at an entry, or at the one from which homing was asked for. -/
  | select (m : ListMenu) (item : Nat) (free : p.Free)
    (h : item < p.entryCount m ∨ m = .prepare ∧ p.homing = some ⟨item⟩) :
    Moves p (p.places.select m item)
  /-- A tile of the main menu is chosen. -/
  | page (c : Cursor) (h : c.position < Act.pageCount ∨ c.position ≤ p.places.page.position) :
    Moves p { p.places with page := c }
  /-- A button of the print screen is chosen. -/
  | print (c : Cursor)
    (h : c.position < Act.printButtonCount ∨ c.position ≤ p.places.print.position) :
    Moves p { p.places with print := c }
  /-- An answer to a question is chosen. -/
  | confirm (c : Cursor) (h : c.position < 2 ∨ c.position ≤ p.places.confirm.position) :
    Moves p { p.places with confirm := c }
  /-- A pictogram is chosen. -/
  | icon (c : Cursor) (h : c.position < Act.iconCount ∨ c.position ≤ p.places.icon.position) :
    Moves p { p.places with icon := c }

/-- What a property has to survive so that every operation keeps it, while the file browser takes
over no listing but these. -/
structure InvariantLoading (loaded : List Files.Path → Prop) (I : Panel → Prop) : Prop where
  /-- The knob is read, a symbol is taken, and the display is lit or dimmed. -/
  attends : ∀ {p} latch knob idleTicks dimmed, I p → latch = .empty ∨ latch = p.latch →
    I { p with latch := latch, knob := knob, idleTicks := idleTicks, dimmed := dimmed }
  /-- What was last heard of the printer is noted. -/
  notes : ∀ {p} job report message, I p →
    I { p with lastJob := job, lastStatus := report, lastMessage := message }
  /-- What is kept about a print and about probing changes. -/
  tracks : ∀ {p} print probe, I p → I { p with print := print, probe := probe }
  /-- Homing is asked for by its entry of the prepare menu. -/
  homes : ∀ {p}, I p →
    (PrepareItem.list p.settings.features)[p.places.prepare.position]? = some .home →
    I { p with homing := some ⟨p.places.prepare.position⟩ }
  /-- Homing is complete. -/
  homed : ∀ {p}, I p → I { p with homing := none }
  /-- A cursor moves. -/
  moves : ∀ {p} {places}, I p → p.Moves places → I { p with places := places }
  /-- The browser shows other files, of its listing or of a new one. -/
  lists : ∀ {p} browser, I p → p.Free →
    browser.paths = p.browser.paths ∨ loaded browser.paths →
    I { p with browser := browser, places := p.places.rewind .files }
  /-- Another screen comes up. -/
  goes : ∀ {p} screen, I p → p.Free → screen.isEditor = false ∨ screen = p.screen →
    I { p with screen := screen }
  /-- A popup will give way to a screen. -/
  covers : ∀ {p} caller, I p → p.Free → (∀ s ∈ caller, s.isEditor = false ∨ s = p.screen) →
    I { p with popupCaller := caller }
  /-- A popup gives way to the screen below. -/
  returns : ∀ {p} screen, I p → p.Free → p.popupCaller = some screen →
    I { p with popupCaller := none, screen := screen }
  /-- A field is opened by the entry that its list is on. -/
  edits : ∀ {p} (m : ListMenu) field value, I p → p.Free →
    m.opens p.settings.features (p.places.get m).position field →
    I { p with
      edit := some (.start field value p.settings.limits m.screen (p.places.get m).row)
      rateLimited := false
      screen := field.screen }
  /-- The value of a field changes. -/
  adjusts : ∀ {p} e value, I p → p.edit = some e →
    I { p with edit := some { e with value := value } }
  /-- A field is left. -/
  leaves : ∀ {p}, I p → I p.abandonEdit
  /-- The presets change. -/
  stores : ∀ {p} presets, I p → I { p with settings := { p.settings with presets := presets } }

/-- What a property has to survive so that every operation keeps it, whatever the printer lists. -/
abbrev Invariant (I : Panel → Prop) : Prop := InvariantLoading (fun _ => True) I

/-- An edit that is abandoned is gone. -/
@[simp] theorem abandonEdit_edit (p : Panel) : p.abandonEdit.edit = none := by
  unfold abandonEdit
  split
  · assumption
  · rfl

/-- No value is edited once an edit is abandoned. -/
theorem free_abandonEdit (p : Panel) : p.abandonEdit.Free := fun _ => p.abandonEdit_edit

/-- No value is edited on a screen that is no editor. -/
theorem free_of_isEditor_eq_false {p : Panel} (h : p.screen.isEditor = false) : p.Free := by
  intro heditor
  rw [h] at heditor
  contradiction

end Panel

/-! ### Facts about the parts of the panel -/

/-- A step of a cursor stays among the entries or goes back. -/
theorem Menu.Cursor.step_lt_or_le (c : Cursor) (forwards : Bool) {count : Nat} (h : 0 < count) :
    (c.step forwards count).position < count ∨ (c.step forwards count).position ≤ c.position := by
  cases forwards with
  | true => exact .inl (Cursor.forward_lt h)
  | false => exact .inr c.back_le

/-- The position of an entry is one of its list, also if the entry is missing. -/
theorem Menu.positionOf_lt {α : Type} [BEq α] {items : List α} (item : α) (h : items ≠ []) :
    positionOf items item < items.length := by
  unfold positionOf
  cases hfound : items.findIdx? (· == item) with
  | none => simpa using List.length_pos_iff.mpr h
  | some i => exact (List.findIdx?_eq_some_iff_findIdx_eq.mp hfound).1

/-- The screen of a list is no editor. -/
theorem ListMenu.isEditor_screen (m : ListMenu) : m.screen.isEditor = false := by
  rcases m with _ | _ | _ | _ | _ | _ | _ | _ | _ | _ <;> rfl

/-- The browser moves only if it goes into a folder. -/
theorem Files.Browser.select_cases (b : Browser) (index : Nat) :
    b.select index = (none, b) ∨ (∃ other, b.select index = (some .folder, other)) ∨
      ∃ path, b.select index = (some (.file path), b) := by
  unfold select
  split
  · exact .inl rfl
  · dsimp only
    split
    · exact .inr (.inl ⟨_, rfl⟩)
    · exact .inl rfl
  · dsimp only
    split
    · exact .inr (.inr ⟨_, rfl⟩)
    · exact .inl rfl

/-- The browser stays in the top folder when it is asked to go up from there. -/
theorem Files.Browser.up_cases (b : Browser) :
    b.up = (false, b) ∨ ∃ other, b.up = (true, other) := by
  unfold up
  split
  · exact .inl rfl
  · exact .inr ⟨_, rfl⟩

namespace Act

open Panel (InvariantLoading)

variable {α β : Type} {a : Answers} {s : Scene} {I : Panel → Prop}
  {loaded : List Files.Path → Prop}

/-! ### Keys in the menus -/

/-- A press on a list does nothing but what its entries do. -/
theorem leaves_withEntry (h : I s.panel) {α : Type} {m : ListMenu} {items : Features → List α}
    {act : α → Act Unit}
    (hact : ∀ item,
      (items s.panel.settings.features)[(s.panel.places.get m).position]? = some item →
      (act item).Leaves I a s) :
    (withEntry m items act).Leaves I a s := by
  simp only [withEntry, leaves_bind, ensures_panel]
  split
  · exact h
  · next item hitem => exact hact item hitem

/-- Heating for a material does not touch the panel. -/
theorem leaves_preheat (h : I s.panel) {m : Material} : (preheat m).Leaves I a s := by
  simp only [preheat, leaves_bind, ensures_panel, ensures_send]
  refine ⟨fun _ => ⟨fun _ => ?_, fun _ _ => h⟩, fun _ _ => h⟩
  split
  · exact (leaves_send _).mpr h
  · exact h

section Menus

variable (hI : InvariantLoading loaded I) (h : I s.panel) (hfree : s.panel.Free)
include hI h

/-- Going to a screen that is no editor keeps an invariant if no value is edited. -/
theorem leaves_goTo_of {screen : Screen} (hfree : s.panel.Free)
    (hscreen : screen.isEditor = false) :
    (goTo screen).Leaves I a s := by
  rw [leaves_goTo]
  exact hI.goes screen h hfree (.inl hscreen)

include hfree

/-- Opening a list keeps an invariant. -/
theorem leaves_openList {m : ListMenu} : (openList m).Leaves I a s := by
  have hrewound := hI.moves h (.rewind m hfree)
  simp only [openList, leaves_bind, ensures_change, leaves_goTo]
  exact hI.goes m.screen hrewound hfree (.inl m.isEditor_screen)

/-- Going back to a list keeps an invariant. -/
theorem leaves_backToList {m : ListMenu} {item : Nat} (hitem : item < s.panel.entryCount m) :
    (backToList m item).Leaves I a s := by
  have hselected := hI.moves h (.select m item hfree (.inl hitem))
  simp only [backToList, leaves_bind, ensures_change, leaves_goTo]
  exact hI.goes m.screen hselected hfree (.inl m.isEditor_screen)

/-- Going back to the main menu keeps an invariant. -/
theorem leaves_backToMainMenu {page : Nat} (hpage : page < pageCount) :
    (backToMainMenu page).Leaves I a s := by
  have hmoved := hI.moves h (.page ⟨page⟩ (.inl hpage))
  simp only [backToMainMenu, leaves_bind, ensures_change, leaves_goTo]
  exact hI.goes .mainMenu hmoved hfree (.inl rfl)

/-- Opening a page from the main menu keeps an invariant. -/
theorem leaves_openPage {page : Nat}
    (hloaded : page = 0 → loaded (Files.listing (a.files.getD []))) :
    (openPage page).Leaves I a s := by
  unfold openPage
  split
  · have hlisted := hI.lists (.load _) h hfree (.inr (hloaded rfl))
    simp only [loadFiles, openList, leaves_bind, ensures_bind, ensures_listFiles,
      ensures_change, leaves_goTo]
    exact hI.goes .selectFile hlisted hfree (.inl rfl)
  · exact leaves_openList hI h hfree
  · exact leaves_openList hI h hfree
  · rw [leaves_bind, ensures_panel]
    split
    · exact leaves_openList hI h hfree
    · exact leaves_goTo_of hI h hfree rfl

/-- A key in the main menu keeps an invariant. -/
theorem leaves_mainMenu {symbol : Symbol}
    (hloaded : symbol = .enter → s.panel.places.page.position = 0 →
      loaded (Files.listing (a.files.getD []))) :
    (mainMenu symbol).Leaves I a s := by
  simp only [mainMenu, leaves_bind, ensures_panel]
  split
  · split
    · simp only [leaves_bind, ensures_change, leaves_draw]
      exact hI.moves h (.page _ (Cursor.step_lt_or_le _ _ (by decide)))
    · exact h
  · split
    · next henter => exact leaves_openPage hI h hfree (hloaded henter)
    · exact h

/-- Turning through a list keeps an invariant. -/
theorem leaves_turnList {m : ListMenu} {symbol : Symbol} : (turnList m symbol).Leaves I a s := by
  have hmoved := hI.moves h (.turn m symbol.isCw hfree)
  simp only [turnList, leaves_bind, ensures_panel, ensures_change]
  split
  · exact (leaves_draw _).mpr hmoved
  · exact hmoved

/-- A key on a list keeps an invariant if a press does. -/
theorem leaves_listKey {m : ListMenu} {enter : Act Unit} {symbol : Symbol}
    (henter : enter.Leaves I a s) : (listKey m enter symbol).Leaves I a s := by
  unfold listKey
  split
  · exact leaves_turnList hI h hfree
  · split
    · exact henter
    · exact h

/-- Starting a print keeps an invariant. -/
theorem leaves_startPrint {path : Files.Path} : (startPrint path).Leaves I a s := by
  have hrewound := hI.moves (hI.tracks .fresh s.panel.probe h) (.rewind .files hfree)
  have hfirst := hI.moves hrewound (.print .first (.inl (by decide)))
  simp only [startPrint, leaves_bind, ensures_send, ensures_change, leaves_goTo]
  exact ⟨fun _ => hI.goes .printProcess hfirst hfree (.inl rfl), fun _ _ => h⟩

/-- A press in the file browser keeps an invariant. -/
theorem leaves_enterFiles : enterFiles.Leaves I a s := by
  have hlists (browser : Files.Browser) (hpaths : browser.paths = s.panel.browser.paths) :
      (openList .files).Leaves I a { s with panel := { s.panel with browser := browser } } := by
    simp only [openList, leaves_bind, ensures_change, leaves_goTo]
    exact hI.goes .selectFile (hI.lists browser h hfree (.inl hpaths)) hfree (.inl rfl)
  simp only [enterFiles, leaves_bind, ensures_panel]
  split
  · obtain hup | ⟨other, hup⟩ := s.panel.browser.up_cases
    · simp only [hup, leaves_bind, ensures_change]
      exact leaves_backToMainMenu hI h hfree (by decide)
    · simp only [hup, leaves_bind, ensures_change]
      exact hlists other (by simpa [hup] using s.panel.browser.up_paths)
  · next index _ =>
    obtain hsel | ⟨other, hsel⟩ | ⟨path, hsel⟩ := s.panel.browser.select_cases index
    · simp only [hsel, leaves_bind, ensures_change, leaves_pure]
      exact h
    · simp only [hsel, leaves_bind, ensures_change]
      exact hlists other (by simpa [hsel] using s.panel.browser.select_paths index)
    · simp only [hsel, leaves_bind, ensures_change]
      exact leaves_startPrint hI h hfree

/-- An edit is begun by the entry that its list is on. -/
theorem leaves_beginEdit {m : ListMenu} {field : Field} {value : Int}
    (hopens : m.opens s.panel.settings.features (s.panel.places.get m).position field) :
    (beginEdit field value m.screen (s.panel.places.get m).row).Leaves I a s := by
  simp only [beginEdit, leaves_bind, ensures_change, ensures_panel, leaves_draw]
  exact hI.edits m field value h hfree hopens

/-- Putting up the notice that a function is missing keeps an invariant. -/
theorem leaves_notAvailable : notAvailable.Leaves I a s := by
  have hcovered := hI.covers (some .motion) h hfree (by simp [Screen.isEditor])
  simp only [notAvailable, leaves_bind, ensures_change, leaves_goTo]
  exact hI.goes .featureNotAvailable hcovered hfree (.inl rfl)

/-- A press in the prepare menu keeps an invariant. -/
theorem leaves_enterPrepare : enterPrepare.Leaves I a s := by
  apply leaves_withEntry h
  intro item hitem
  cases item with
  | back => exact leaves_backToMainMenu hI h hfree (by decide)
  | move =>
    rw [leaves_bind, ensures_send]
    exact ⟨fun _ => leaves_openList (s := s.afterCommand _ true) hI h hfree, fun _ _ => h⟩
  | disableSteppers => exact (leaves_send _).mpr h
  | home =>
    simp only [leaves_bind, ensures_send, ensures_change, leaves_goTo]
    exact ⟨fun _ => hI.goes .homing (hI.homes h hitem) hfree (.inl rfl), fun _ _ => h⟩
  | zOffset =>
    simp only [leaves_bind, ensures_report, ensures_panel]
    exact leaves_beginEdit (m := .prepare) (s := { s with looks := s.looks + 1 }) hI h hfree
      (by simp [ListMenu.opens, hitem, PrepareItem.opens])
  | preheatPla => exact leaves_preheat h
  | preheatTpu => exact leaves_preheat h
  | cooldown =>
    simp only [leaves_bind, ensures_send, leaves_send]
    exact ⟨fun _ => ⟨fun _ => h, fun _ _ => h⟩, fun _ _ => h⟩

/-- A press in the control menu keeps an invariant. -/
theorem leaves_enterControl : enterControl.Leaves I a s := by
  apply leaves_withEntry h
  intro item _
  cases item with
  | back => exact leaves_backToMainMenu hI h hfree (by decide)
  | temperature => exact leaves_openList hI h hfree
  | motion => exact leaves_openList hI h hfree
  | info => exact leaves_goTo_of hI h hfree rfl

/-- A press in the list of macros keeps an invariant. -/
theorem leaves_enterMisc : enterMisc.Leaves I a s := by
  simp only [enterMisc, leaves_bind, ensures_panel]
  split
  · have hrewound := hI.moves h (.rewind .misc hfree)
    simp only [leaves_bind, ensures_change]
    exact leaves_backToMainMenu
      (s := { s with panel := { s.panel with places := s.panel.places.rewind .misc } })
      hI hrewound hfree (by decide)
  · split
    · exact h
    · exact (leaves_send _).mpr h

/-- A key on the page about the machine keeps an invariant. -/
theorem leaves_info {symbol : Symbol} : (info symbol).Leaves I a s := by
  unfold info
  split
  · simp only [leaves_bind, ensures_panel]
    split
    · exact leaves_backToList hI h hfree (positionOf_lt _ (by decide))
    · exact leaves_backToMainMenu hI h hfree (by decide)
  · exact h

/-- A press in the motion menu keeps an invariant. -/
theorem leaves_enterMotion : enterMotion.Leaves I a s := by
  apply leaves_withEntry h
  intro item _
  cases item with
  | back => exact leaves_backToList hI h hfree (positionOf_lt _ (by decide))
  | maxSpeed => exact leaves_notAvailable hI h hfree
  | maxAcceleration => exact leaves_notAvailable hI h hfree
  | maxJerk => exact leaves_notAvailable hI h hfree
  | steps => exact leaves_notAvailable hI h hfree

/-- A key in an editor of the motion limits keeps an invariant. -/
theorem leaves_motionEditor {symbol : Symbol} : (motionEditor symbol).Leaves I a s := by
  unfold motionEditor
  split
  · exact leaves_notAvailable hI h hfree
  · exact h

/-- A press in the tune menu keeps an invariant. -/
theorem leaves_enterTune : enterTune.Leaves I a s := by
  apply leaves_withEntry h
  intro item hitem
  have hedit (field : Field) (value : Int) (hopens : item.opens field) :
      (beginEdit field value .tune s.panel.places.tune.row).Leaves I a
        { s with looks := s.looks + 1 } := by
    apply leaves_beginEdit (m := .tune) (s := { s with looks := s.looks + 1 }) hI h hfree
    simp [ListMenu.opens, hitem, hopens]
  simp only [leaves_bind, ensures_report, ensures_panel]
  cases item with
  | back =>
    have hfirst := hI.moves h (.print .first (.inl (by decide)))
    simp only [leaves_bind, ensures_change, leaves_goTo]
    exact hI.goes .printProcess hfirst hfree (.inl rfl)
  | speed => exact hedit _ _ rfl
  | hotend => exact hedit _ _ rfl
  | bed => exact hedit _ _ rfl
  | fan => exact hedit _ _ rfl
  | zOffset => exact hedit _ _ rfl

/-- An axis is moved by the entry that stands for it. -/
theorem leaves_beginMove {axis : Axis} {item : AxisItem} (haxis : item.axis? = some axis)
    (hitem : AxisItem.list[s.panel.places.axes.position]? = some item) :
    (beginMove axis).Leaves I a s := by
  have hedit (field : Field) (value : Int) (hopens : item.opens field) :
      (beginEdit field value .axisMove s.panel.places.axes.row).Leaves I a
        { s with looks := s.looks + 1 } := by
    apply leaves_beginEdit (m := .axes) (s := { s with looks := s.looks + 1 }) hI h hfree
    simp [ListMenu.opens, Places.get, hitem, hopens]
  simp only [beginMove, leaves_bind, ensures_report, ensures_panel]
  cases item <;> simp only [AxisItem.axis?, Option.some.injEq, reduceCtorEq] at haxis <;>
    subst haxis <;> dsimp only
  · exact hedit _ _ rfl
  · exact hedit _ _ rfl
  · exact hedit _ _ rfl
  · split
    · exact leaves_goTo_of (s := { s with looks := s.looks + 1 }) hI h hfree rfl
    · exact hedit _ _ rfl

/-- A press in the axis menu keeps an invariant. -/
theorem leaves_enterAxes : enterAxes.Leaves I a s := by
  apply leaves_withEntry h
  intro item hitem
  cases haxis : item.axis? with
  | none =>
    simp only [leaves_bind, ensures_panel]
    exact leaves_backToList hI h hfree (positionOf_lt _ (by simp [PrepareItem.list]))
  | some axis => exact leaves_beginMove hI h hfree haxis hitem

/-- A press in the temperature menu keeps an invariant. -/
theorem leaves_enterTemperature : enterTemperature.Leaves I a s := by
  apply leaves_withEntry h
  intro item hitem
  have hedit (field : Field) (value : Int) (hopens : item.opens field) :
      (beginEdit field value .temperature s.panel.places.temperature.row).Leaves I a
        { s with looks := s.looks + 1 } := by
    apply leaves_beginEdit (m := .temperature) (s := { s with looks := s.looks + 1 }) hI h hfree
    simp [ListMenu.opens, hitem, hopens]
  have hopen (m : ListMenu) : (openList m).Leaves I a { s with looks := s.looks + 1 } :=
    leaves_openList (s := { s with looks := s.looks + 1 }) hI h hfree
  simp only [leaves_bind, ensures_report, ensures_panel]
  cases item with
  | back =>
    exact leaves_backToList (m := .control) (s := { s with looks := s.looks + 1 }) hI h hfree
      (positionOf_lt _ (by decide))
  | hotend => exact hedit _ _ rfl
  | bed => exact hedit _ _ rfl
  | fan => exact hedit _ _ rfl
  | plaPreset => exact hopen _
  | tpuPreset => exact hopen _

/-- A press in the menu of a preset keeps an invariant. -/
theorem leaves_enterPreset {m : Material} : (enterPreset m).Leaves I a s := by
  apply leaves_withEntry h
  intro item hitem
  have hedit (field : Field) (value : Int) (hopens : item.opens m field) :
      (beginEdit field value (ListMenu.preset m).screen
        (s.panel.places.get (.preset m)).row).Leaves I a s := by
    apply leaves_beginEdit (m := .preset m) hI h hfree
    simp [ListMenu.opens, hitem, hopens]
  simp only [leaves_bind, ensures_panel]
  cases item with
  | back =>
    exact leaves_backToList hI h hfree (positionOf_lt _ (by simp [TemperatureItem.list]))
  | hotend => exact hedit _ _ (by simp [PreheatItem.opens])
  | bed => exact hedit _ _ (by simp [PreheatItem.opens])
  | fan => exact hedit _ _ (by simp [PreheatItem.opens])
  | save => exact (leaves_send _).mpr h

end Menus

/-! ### Keys during a print, on popups and while probing -/

/-- A message gives way to screens without an editor only. -/
theorem isEditor_messageReturn (caller : Option Screen) :
    (messageReturn caller).isEditor = false := by
  unfold messageReturn
  split
  · next screen =>
    cases screen <;> rfl
  · rfl

section Printing

variable (hI : InvariantLoading loaded I) (h : I s.panel) (hfree : s.panel.Free)
include hI h hfree

/-- Asking a question keeps an invariant. -/
theorem leaves_ask {action : PrintAction} : (ask action).Leaves I a s := by
  have hasked := hI.tracks { s.panel.print with action := some action } s.panel.probe h
  have hconfirm := hI.moves hasked (.confirm ⟨1⟩ (.inl (by decide)))
  simp only [ask, leaves_bind, ensures_change, leaves_goTo]
  exact hI.goes .printWindow hconfirm hfree (.inl rfl)

/-- A button of the print screen keeps an invariant. -/
theorem leaves_pressPrintButton {button : Nat} : (pressPrintButton button).Leaves I a s := by
  unfold pressPrintButton
  split
  · have hrewound := hI.moves h (.rewind .tune hfree)
    simp only [leaves_bind, ensures_change, leaves_goTo]
    exact hI.goes .tune hrewound hfree (.inl rfl)
  · simp only [leaves_bind, ensures_panel]
    split
    · have hresumed := hI.tracks { s.panel.print with paused := false } s.panel.probe h
      simp only [leaves_bind, ensures_send, ensures_change, ensures_panel, leaves_draw]
      exact ⟨fun _ => hresumed, fun _ _ => h⟩
    · exact leaves_ask hI h hfree
  · exact leaves_ask hI h hfree

/-- A key on the print screen keeps an invariant. -/
theorem leaves_printProcess {symbol : Symbol} : (printProcess symbol).Leaves I a s := by
  simp only [printProcess, leaves_bind, ensures_panel]
  split
  · split
    · have hfresh := hI.tracks .fresh s.panel.probe h
      have hfirst := hI.moves hfresh (.page .first (.inl (by decide)))
      simp only [leaves_bind, ensures_change, leaves_goTo]
      exact hI.goes .mainMenu hfirst hfree (.inl rfl)
    · exact h
  · split
    · split
      · simp only [leaves_bind, ensures_change, leaves_draw]
        exact hI.moves h (.print _ (Cursor.step_lt_or_le _ _ (by decide)))
      · exact h
    · split
      · exact leaves_pressPrintButton hI h hfree
      · exact h

/-- An answer to a question keeps an invariant. -/
theorem leaves_giveAnswer : giveAnswer.Leaves I a s := by
  have hanswered : I { s.panel with
      print := { s.panel.print with action := none }, screen := .printProcess } :=
    hI.goes .printProcess (hI.tracks { s.panel.print with action := none } s.panel.probe h) hfree
      (.inl rfl)
  have hprinting : Panel.Free { s.panel with
      print := { s.panel.print with action := none }, screen := .printProcess } :=
    Panel.free_of_isEditor_eq_false rfl
  simp only [giveAnswer, leaves_bind, ensures_panel, ensures_change]
  split
  · have hpaused := hI.tracks { s.panel.print with action := none, paused := true } s.panel.probe
      hanswered
    simp only [leaves_bind, ensures_send, ensures_change, leaves_goTo]
    exact ⟨fun _ => hpaused, fun _ _ => hanswered⟩
  · have hfresh := hI.tracks .fresh s.panel.probe hanswered
    have hfirst := hI.moves hfresh (.page .first (.inl (by decide)))
    simp only [leaves_bind, ensures_send, ensures_change, leaves_goTo]
    exact ⟨fun _ => hI.goes .mainMenu hfirst hprinting (.inl rfl), fun _ _ => hanswered⟩
  · exact (leaves_goTo _).mpr hanswered

/-- A key on a question keeps an invariant. -/
theorem leaves_printWindow {symbol : Symbol} : (printWindow symbol).Leaves I a s := by
  unfold printWindow
  split
  · simp only [turnAnswer, leaves_bind, ensures_panel]
    split
    · simp only [leaves_bind, ensures_change, leaves_draw]
      exact hI.moves h (.confirm _ (Cursor.step_lt_or_le _ _ (by decide)))
    · exact h
  · split
    · exact leaves_giveAnswer hI h hfree
    · exact h

/-- A key on the notice that a function is missing keeps an invariant. -/
theorem leaves_featureNotAvailable {symbol : Symbol} :
    (featureNotAvailable symbol).Leaves I a s := by
  unfold featureNotAvailable
  split
  · simp only [leaves_bind, ensures_panel, ensures_change, leaves_goTo]
    cases hcaller : s.panel.popupCaller with
    | none =>
      have huncovered := hI.covers none h hfree (by simp)
      exact hI.goes .mainMenu huncovered hfree (.inl rfl)
    | some caller => exact hI.returns caller h hfree hcaller
  · exact h

/-- A key on the warning of a cold hotend keeps an invariant. -/
theorem leaves_tooCold {symbol : Symbol} : (tooCold symbol).Leaves I a s := by
  unfold tooCold
  split
  · exact leaves_goTo_of hI h hfree rfl
  · exact h

/-- A key on a message keeps an invariant. -/
theorem leaves_messagePopup {symbol : Symbol} : (messagePopup symbol).Leaves I a s := by
  unfold messagePopup
  split
  · have huncovered := hI.covers none h hfree (by simp)
    simp only [leaves_bind, ensures_panel, ensures_change, leaves_goTo]
    exact hI.goes _ huncovered hfree (.inl (isEditor_messageReturn _))
  · exact h

/-- A key in the browser for pictograms keeps an invariant. -/
theorem leaves_iconFinder {symbol : Symbol} : (iconFinder symbol).Leaves I a s := by
  unfold iconFinder
  split
  · simp only [leaves_bind, ensures_panel]
    split
    · simp only [leaves_bind, ensures_change, ensures_panel, leaves_draw]
      exact hI.moves h (.icon _ (Cursor.step_lt_or_le _ _ (by decide)))
    · exact h
  · split
    · exact leaves_goTo_of hI h hfree rfl
    · exact h

omit hfree in
/-- A step of the nozzle keeps an invariant. -/
theorem leaves_moveProbe {allowed : Bool} {um : Int} : (moveProbe allowed um).Leaves I a s := by
  have hmoved := hI.tracks s.panel.print { s.panel.probe with outOfRange := !allowed } h
  unfold moveProbe
  cases allowed with
  | true =>
    simp only [if_true, leaves_bind, ensures_send, ensures_change, ensures_panel, leaves_draw]
    exact ⟨fun _ => hmoved, fun _ _ => h⟩
  | false =>
    simp only [Bool.false_eq_true, if_false, leaves_bind, ensures_change, ensures_panel,
      leaves_draw]
    exact hmoved

/-- A key while the bed is probed by hand keeps an invariant. -/
theorem leaves_manualProbe {symbol : Symbol} : (manualProbe symbol).Leaves I a s := by
  have hmove (allowed : Bool) (um : Int) :
      (moveProbe allowed um).Leaves I a { s with looks := s.looks + 1 } :=
    leaves_moveProbe (s := { s with looks := s.looks + 1 }) hI h
  simp only [manualProbe, leaves_bind, ensures_report, ensures_panel]
  cases symbol with
  | cw => exact hmove _ _
  | fastCw => exact hmove _ _
  | ccw => exact hmove _ _
  | fastCcw => exact hmove _ _
  | enter =>
    simp only [leaves_bind, ensures_change, ensures_panel, leaves_draw]
    exact hI.tracks s.panel.print _ h
  | longEnter =>
    simp only [leaves_bind, ensures_send, ensures_change, leaves_goTo]
    exact ⟨fun _ => hI.goes .mainMenu (hI.tracks s.panel.print .fresh h) hfree (.inl rfl),
      fun _ _ => h⟩
  | idle => exact h

end Printing

/-! ### Keys while a value is edited -/

section Editing

variable (hI : InvariantLoading loaded I) (h : I s.panel)
include hI h

/-- The effect of an edit keeps an invariant. -/
theorem leaves_takeEffect {effect : EditEffect} : (takeEffect effect).Leaves I a s := by
  cases effect with
  | command c => exact (leaves_send c).mpr h
  | preset m field value => exact hI.stores _ h

/-- An accepted edit is left whether its settled value can be shown or not. -/
theorem leaves_acceptEdit {e : Edit} (he : s.panel.edit = some e) :
    (acceptEdit e).Leaves I a s := by
  have hleft : I { s.panel with edit := none, screen := e.returnTo, rateLimited := true } := by
    have habandoned := hI.leaves h
    simp only [Panel.abandonEdit, he] at habandoned
    exact habandoned
  rw [acceptEdit, leaves_bind, ensures_change, leaves_bind, ensures_panel]
  exact Leaves.bind ((leaves_draw _).mpr hleft) fun _ _ ht => leaves_takeEffect hI ht

/-- A key on an open edit keeps an invariant. -/
theorem leaves_valueEdit {symbol : Symbol} : (valueEdit symbol).Leaves I a s := by
  simp only [valueEdit_eq, leaves_bind, ensures_panel]
  cases he : s.panel.edit with
  | none => exact leaves_goTo_of hI h (fun _ => he) rfl
  | some e =>
    dsimp only
    split
    · exact leaves_acceptEdit hI h he
    · split
      · rw [leaves_bind, ensures_change, leaves_draw, Edit.turn_eq]
        exact hI.adjusts e _ h he
      · exact h

end Editing

/-- The screen that is up handles a symbol by moves. Only the first tile of the main menu takes over
a listing. -/
theorem leaves_handle_loading (hI : InvariantLoading loaded I) (h : I s.panel) (symbol : Symbol)
    (hloaded : s.panel.screen = .mainMenu → symbol = .enter →
      s.panel.places.page.position = 0 → loaded (Files.listing (a.files.getD []))) :
    (handle s.panel.screen symbol).Leaves I a s := by
  have hfree (hscreen : s.panel.screen.isEditor = false) : s.panel.Free :=
    Panel.free_of_isEditor_eq_false hscreen
  cases hscreen : s.panel.screen <;> rw [hscreen] at hfree
  case mainMenu => exact leaves_mainMenu hI h (hfree rfl) (hloaded hscreen)
  case selectFile =>
    exact leaves_listKey hI h (hfree rfl) (leaves_enterFiles hI h (hfree rfl))
  case prepare =>
    exact leaves_listKey hI h (hfree rfl) (leaves_enterPrepare hI h (hfree rfl))
  case control =>
    exact leaves_listKey hI h (hfree rfl) (leaves_enterControl hI h (hfree rfl))
  case misc =>
    exact leaves_listKey hI h (hfree rfl) (leaves_enterMisc hI h (hfree rfl))
  case printProcess => exact leaves_printProcess hI h (hfree rfl)
  case axisMove =>
    exact leaves_listKey hI h (hfree rfl) (leaves_enterAxes hI h (hfree rfl))
  case temperature =>
    exact leaves_listKey hI h (hfree rfl) (leaves_enterTemperature hI h (hfree rfl))
  case motion =>
    exact leaves_listKey hI h (hfree rfl) (leaves_enterMotion hI h (hfree rfl))
  case info => exact leaves_info hI h (hfree rfl)
  case tune =>
    exact leaves_listKey hI h (hfree rfl) (leaves_enterTune hI h (hfree rfl))
  case plaPreheat | tpuPreheat =>
    exact leaves_listKey hI h (hfree rfl) (leaves_enterPreset hI h (hfree rfl))
  case featureNotAvailable => exact leaves_featureNotAvailable hI h (hfree rfl)
  case homing => exact h
  case printWindow => exact leaves_printWindow hI h (hfree rfl)
  case tooCold => exact leaves_tooCold hI h (hfree rfl)
  case manualProbe => exact leaves_manualProbe hI h (hfree rfl)
  case messagePopup => exact leaves_messagePopup hI h (hfree rfl)
  case iconFinder => exact leaves_iconFinder hI h (hfree rfl)
  case maxSpeed | maxSpeedValue | maxAcceleration | maxAccelerationValue | maxJerk | maxJerkValue |
      step | stepValue =>
    exact leaves_motionEditor hI h (hfree rfl)
  all_goals exact leaves_valueEdit hI h

/-- Whatever a symbol does on the screen that is up keeps an invariant. -/
theorem leaves_handle (hI : Panel.Invariant I) (h : I s.panel) (symbol : Symbol) :
    (handle s.panel.screen symbol).Leaves I a s :=
  leaves_handle_loading hI h symbol fun _ _ _ => trivial

end Act

/-! ### Reports and messages -/

/-- A demand leads to a screen without an editor, unless it leads nowhere. -/
theorem Screen.isEditor_after (s : Screen) (d : Demand) :
    (s.after d).isEditor = false ∨ s.after d = s := by
  cases d with
  | printStarted => exact .inl rfl
  | jobEnded => exact .inl rfl
  | probeStarted => exact .inl rfl
  | probeEnded => by_cases hs : s = .manualProbe <;> simp [Screen.after, hs, Screen.isEditor]
  | homingComplete => by_cases hs : s = .homing <;> simp [Screen.after, hs, Screen.isEditor]

namespace Panel.InvariantLoading

variable {loaded : List Files.Path → Prop} {I : Panel → Prop} {p : Panel}

/-- A message puts away an edit and covers the screen below. -/
theorem withMessage (hI : InvariantLoading loaded I) (text : String) (h : I p) :
    I (p.withMessage text) := by
  have habandoned := hI.leaves h
  have hfree := p.free_abandonEdit
  unfold Panel.withMessage
  split
  · exact h
  · split
    · exact hI.goes .messagePopup habandoned hfree (.inl rfl)
    · have hcovered := hI.covers (some p.abandonEdit.screen) habandoned hfree (by simp)
      exact hI.goes .messagePopup hcovered hfree (.inl rfl)

/-- A demand puts away an edit and goes to its screen. -/
theorem forced (hI : InvariantLoading loaded I) (d : Demand) (h : I p) : I (p.forced d) := by
  have habandoned := hI.leaves h
  have hfree := p.free_abandonEdit
  have huncovered := hI.covers none habandoned hfree (by simp)
  have hwaiting := hI.attends .empty p.abandonEdit.knob p.abandonEdit.idleTicks
    p.abandonEdit.dimmed huncovered (.inl rfl)
  exact hI.goes _ hwaiting hfree (Screen.isEditor_after _ d)

/-- Following the job keeps an invariant. -/
theorem followingJob (hI : InvariantLoading loaded I) (r : Status) (h : I p) :
    I (p.followingJob r) := by
  have hnoted := hI.notes r.job p.lastStatus p.lastMessage h
  unfold Panel.followingJob
  dsimp only
  split
  · exact hnoted
  · split
    · split
      · exact hnoted
      · have hfresh := hI.tracks .fresh p.probe hnoted
        have hfirst := hI.moves hfresh (.print .first (.inl (by decide)))
        exact hI.forced .printStarted hfirst
    · exact hnoted
    · exact hI.forced .jobEnded (hI.tracks .fresh p.probe hnoted)
    · exact hI.forced .jobEnded (hI.tracks .fresh p.probe hnoted)
    · exact hI.forced .jobEnded (hI.tracks .fresh p.probe hnoted)
    · exact hI.withMessage _ hnoted

/-- Following the probing of the bed keeps an invariant. -/
theorem followingProbe (hI : InvariantLoading loaded I) (r : Status) (h : I p) :
    I (p.followingProbe r) := by
  unfold Panel.followingProbe
  split
  · exact h
  · exact hI.forced _ (hI.tracks p.print .fresh h)

/-- Keeping up with the print keeps an invariant. -/
theorem followingPrint (hI : InvariantLoading loaded I) (r : Status) (h : I p) :
    I (p.followingPrint r) := by
  unfold Panel.followingPrint
  split
  · exact hI.tracks _ p.probe h
  · exact h

/-- Waiting for the axes to be homed keeps an invariant. -/
theorem followingHoming (hI : InvariantLoading loaded I) (r : Status) (h : I p) :
    I (p.followingHoming r) := by
  unfold Panel.followingHoming
  split
  · exact h
  · next request hrequest =>
    split
    · split
      · next hscreen =>
        have hfree : p.Free := free_of_isEditor_eq_false (by rw [hscreen]; rfl)
        have hselected := hI.moves h
          (.select .prepare request.position hfree (.inr ⟨rfl, hrequest⟩))
        exact hI.goes .prepare (hI.homed hselected) hfree (.inl rfl)
      · exact hI.homed h
    · exact h

/-- Showing the message of a report keeps an invariant. -/
theorem followingMessage (hI : InvariantLoading loaded I) (r : Status) (h : I p) :
    I (p.followingMessage r) := by
  unfold Panel.followingMessage
  split
  · exact h
  · exact hI.withMessage _ (hI.notes p.lastJob p.lastStatus r.message h)

/-- Every change for a report is made of moves. -/
theorem change (hI : InvariantLoading loaded I) {r : Status} {change : Panel → Panel}
    (hchange : change ∈ changesFor r) (h : I p) : I (change p) := by
  simp only [changesFor, List.mem_cons, List.not_mem_nil, or_false] at hchange
  obtain rfl | rfl | rfl | rfl | rfl := hchange
  · exact hI.followingJob r h
  · exact hI.followingProbe r h
  · exact hI.followingPrint r h
  · exact hI.followingHoming r h
  · exact hI.followingMessage r h

end Panel.InvariantLoading

end PrinterPanel
