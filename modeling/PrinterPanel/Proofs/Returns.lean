import PrinterPanel.Proofs.Escapes
import PrinterPanel.Proofs.Messages
import PrinterPanel.Proofs.Refusals

/-!
# Menus that keep their place

A menu is opened from an entry of another one, and the way back puts the cursor of that on an entry
that is looked up anew. A key moves the place of no menu but the one that is up and the one that
comes up. So, whatever is done below a menu, its place is still the one on the entry that was
pressed, and the way back finds it there.
-/

namespace PrinterPanel

open Menu

/-! ### Places -/

namespace Places

variable {up : Screen} {places other : Places}

/-- Cursor and window of the menu on a screen are where they were. -/
structure Alike (up : Screen) (places other : Places) : Prop where
  lists : ∀ m : ListMenu, m.screen = up → other.get m = places.get m
  page : up = .mainMenu → other.page = places.page

/-- A menu is where it is. -/
theorem Alike.refl (up : Screen) (places : Places) : places.Alike up places :=
  ⟨fun _ _ => rfl, fun _ => rfl⟩

/-- To scroll another list leaves the menu where it is. -/
theorem Alike.set (h : places.Alike up other) {m : ListMenu} (hm : m.screen ≠ up) (l : ListView) :
    places.Alike up (other.set m l) where
  lists m' hm' := by
    have hne : m ≠ m' := by
      rintro rfl
      exact hm hm'
    rw [get_set, if_neg hne]
    exact h.lists m' hm'
  page hup := by
    rw [(Panel.set_cursors other m l).1]
    exact h.page hup

/-- The cursors of the print screen, of questions and of pictograms belong to no menu. -/
theorem Alike.cursors (h : places.Alike up other) (print confirm icon : Cursor) :
    places.Alike up { other with print := print, confirm := confirm, icon := icon } where
  lists m hm := by
    rw [← h.lists m hm]
    cases m <;> rfl
  page := h.page

/-- To turn the tiles of the main menu leaves any other menu where it is. -/
theorem Alike.turnPage (h : places.Alike up other) (hup : up ≠ .mainMenu) (page : Cursor) :
    places.Alike up { other with page := page } where
  lists m hm := by
    rw [← h.lists m hm]
    cases m <;> rfl
  page hmain := absurd hmain hup

end Places

namespace Panel

/-- A menu is up, or it keeps its place. -/
def KeepsPlace (up : Screen) (places : Places) (p : Panel) : Prop :=
  p.screen = up ∨ places.Alike up p.places

end Panel

namespace Act

open Panel (KeepsPlace)

variable {a : Answers} {s : Scene} {up : Screen} {places : Places}

section Menus

variable (h : places.Alike up s.panel.places)

include h

/-- Opening a list moves no other menu. -/
theorem keepsPlace_openList (m : ListMenu) : (openList m).Leaves (KeepsPlace up places) a s := by
  simp only [openList, leaves_bind, ensures_change, leaves_goTo]
  by_cases hm : m.screen = up
  · exact .inl hm
  · exact .inr (h.set hm _)

/-- Going back to a list moves no other menu. -/
theorem keepsPlace_backToList (m : ListMenu) (item : Nat) :
    (backToList m item).Leaves (KeepsPlace up places) a s := by
  simp only [backToList, leaves_bind, ensures_change, leaves_goTo]
  by_cases hm : m.screen = up
  · exact .inl hm
  · exact .inr (h.set hm _)

/-- Going back to the main menu moves no other menu. -/
theorem keepsPlace_backToMainMenu (page : Nat) :
    (backToMainMenu page).Leaves (KeepsPlace up places) a s := by
  simp only [backToMainMenu, leaves_bind, ensures_change, leaves_goTo]
  by_cases hmain : up = .mainMenu
  · exact .inl hmain.symm
  · exact .inr (h.turnPage hmain _)

/-- Going to a screen moves no menu. -/
theorem keepsPlace_goTo (screen : Screen) :
    (goTo screen).Leaves (KeepsPlace up places) a s := by
  rw [leaves_goTo]
  exact .inr h

/-- Beginning an edit moves no menu. -/
theorem keepsPlace_beginEdit (field : Field) (initial : Int) (returnTo : Screen) (row : Nat) :
    (beginEdit field initial returnTo row).Leaves (KeepsPlace up places) a s := by
  simp only [beginEdit, leaves_bind, ensures_change, ensures_panel, leaves_draw]
  exact .inr h

/-- Opening a page from the main menu moves no menu but the one that comes up. -/
theorem keepsPlace_openPage (page : Nat) :
    (openPage page).Leaves (KeepsPlace up places) a s := by
  unfold openPage
  split
  · simp only [loadFiles, leaves_bind, ensures_bind, ensures_listFiles, ensures_change]
    apply keepsPlace_openList
    exact h
  · exact keepsPlace_openList h .prepare
  · exact keepsPlace_openList h .control
  · rw [leaves_bind, ensures_panel]
    split
    · exact keepsPlace_openList h .misc
    · exact keepsPlace_goTo h .info

/-- A key in the main menu moves only that and the menu that comes up. -/
theorem keepsPlace_mainMenu (hother : up ≠ .mainMenu) {symbol : Symbol} :
    (mainMenu symbol).Leaves (KeepsPlace up places) a s := by
  simp only [mainMenu, leaves_bind, ensures_panel]
  split
  · split
    · simp only [leaves_bind, ensures_change, leaves_draw]
      exact .inr (h.turnPage hother _)
    · exact .inr h
  · split
    · exact keepsPlace_openPage h _
    · exact .inr h

/-- A key on a list moves only that, if a press moves no menu but one that comes up. -/
theorem keepsPlace_listKey {m : ListMenu} {enter : Act Unit} {symbol : Symbol}
    (hother : m.screen ≠ up) (henter : enter.Leaves (KeepsPlace up places) a s) :
    (listKey m enter symbol).Leaves (KeepsPlace up places) a s := by
  unfold listKey
  split
  · simp only [turnList, leaves_bind, ensures_panel, ensures_change]
    split
    · exact (leaves_draw _).mpr (.inr (h.set hother _))
    · exact .inr (h.set hother _)
  · split
    · exact henter
    · exact .inr h

/-- A press in the file browser moves only that and the main menu. -/
theorem keepsPlace_enterFiles (hother : up ≠ .selectFile) :
    enterFiles.Leaves (KeepsPlace up places) a s := by
  simp only [enterFiles, leaves_bind, ensures_panel]
  split
  · simp only [leaves_bind, ensures_change]
    split
    · apply keepsPlace_openList
      exact h
    · apply keepsPlace_backToMainMenu
      exact h
  · simp only [leaves_bind, ensures_change]
    split
    · exact .inr h
    · apply keepsPlace_openList
      exact h
    · simp only [startPrint, leaves_bind, ensures_send, ensures_change, leaves_goTo]
      refine ⟨fun _ => .inr ?_, fun _ _ => .inr h⟩
      exact (h.set (m := .files) hother.symm .start).cursors .first _ _

/-- A press in the prepare menu moves only the menu that comes up. -/
theorem keepsPlace_enterPrepare : enterPrepare.Leaves (KeepsPlace up places) a s := by
  apply leaves_withEntry (.inr h)
  intro item _
  cases item with
  | back => exact keepsPlace_backToMainMenu h 1
  | move =>
    simp only [leaves_bind, ensures_send]
    refine ⟨fun _ => ?_, fun _ _ => .inr h⟩
    apply keepsPlace_openList
    exact h
  | disableSteppers => exact (leaves_send _).mpr (.inr h)
  | home =>
    simp only [leaves_bind, ensures_send, ensures_change, leaves_goTo]
    exact ⟨fun _ => .inr h, fun _ _ => .inr h⟩
  | zOffset =>
    simp only [leaves_bind, ensures_report, ensures_panel]
    apply keepsPlace_beginEdit
    exact h
  | preheatPla | preheatTpu => exact leaves_preheat (.inr h)
  | cooldown =>
    simp only [leaves_bind, ensures_send, leaves_send]
    exact ⟨fun _ => ⟨fun _ => .inr h, fun _ _ => .inr h⟩, fun _ _ => .inr h⟩

/-- A press in the control menu moves only the menu that comes up. -/
theorem keepsPlace_enterControl : enterControl.Leaves (KeepsPlace up places) a s := by
  apply leaves_withEntry (.inr h)
  intro item _
  cases item with
  | back => exact keepsPlace_backToMainMenu h 2
  | temperature => exact keepsPlace_openList h .temperature
  | motion => exact keepsPlace_openList h .motion
  | info => exact keepsPlace_goTo h .info

/-- A press in the list of macros moves only that and the main menu. -/
theorem keepsPlace_enterMisc (hother : up ≠ .misc) :
    enterMisc.Leaves (KeepsPlace up places) a s := by
  simp only [enterMisc, leaves_bind, ensures_panel]
  split
  · simp only [leaves_bind, ensures_change]
    apply keepsPlace_backToMainMenu
    exact h.set (m := .misc) hother.symm .start
  · split
    · exact .inr h
    · exact (leaves_send _).mpr (.inr h)

/-- A key on the page about the machine moves only the menu that comes up. -/
theorem keepsPlace_info {symbol : Symbol} : (info symbol).Leaves (KeepsPlace up places) a s := by
  unfold info
  split
  · rw [leaves_bind, ensures_panel]
    split
    · exact keepsPlace_backToList h .control _
    · exact keepsPlace_backToMainMenu h 3
  · exact .inr h

/-- Putting up the notice that a function is missing moves no menu. -/
theorem keepsPlace_notAvailable : notAvailable.Leaves (KeepsPlace up places) a s := by
  simp only [notAvailable, leaves_bind, ensures_change, leaves_goTo]
  exact .inr h

/-- A press in the motion menu moves only the menu that comes up. -/
theorem keepsPlace_enterMotion : enterMotion.Leaves (KeepsPlace up places) a s := by
  apply leaves_withEntry (.inr h)
  intro item _
  cases item with
  | back => exact keepsPlace_backToList h .control _
  | maxSpeed | maxAcceleration | maxJerk | steps => exact keepsPlace_notAvailable h

/-- A key in an editor of the motion limits moves no menu. -/
theorem keepsPlace_motionEditor {symbol : Symbol} :
    (motionEditor symbol).Leaves (KeepsPlace up places) a s := by
  unfold motionEditor
  split
  · exact keepsPlace_notAvailable h
  · exact .inr h

/-- A press in the tune menu moves no menu. -/
theorem keepsPlace_enterTune : enterTune.Leaves (KeepsPlace up places) a s := by
  apply leaves_withEntry (.inr h)
  intro item _
  simp only [leaves_bind, ensures_report, ensures_panel]
  cases item with
  | back =>
    simp only [leaves_bind, ensures_change, leaves_goTo]
    exact .inr (h.cursors .first _ _)
  | speed | hotend | bed | fan | zOffset =>
    apply keepsPlace_beginEdit
    exact h

/-- A press in the axis menu moves only the menu that comes up. -/
theorem keepsPlace_enterAxes : enterAxes.Leaves (KeepsPlace up places) a s := by
  apply leaves_withEntry (.inr h)
  intro item _
  cases item.axis? with
  | none => exact keepsPlace_backToList h .prepare _
  | some axis =>
    simp only [beginMove, leaves_bind, ensures_report, ensures_panel]
    cases axis with
    | e =>
      dsimp only
      split
      · apply keepsPlace_goTo
        exact h
      · apply keepsPlace_beginEdit
        exact h
    | x | y | z =>
      apply keepsPlace_beginEdit
      exact h

/-- A press in the temperature menu moves only the menu that comes up. -/
theorem keepsPlace_enterTemperature : enterTemperature.Leaves (KeepsPlace up places) a s := by
  apply leaves_withEntry (.inr h)
  intro item _
  simp only [leaves_bind, ensures_report, ensures_panel]
  cases item with
  | back =>
    apply keepsPlace_backToList
    exact h
  | plaPreset | tpuPreset =>
    apply keepsPlace_openList
    exact h
  | hotend | bed | fan =>
    apply keepsPlace_beginEdit
    exact h

/-- A press in the menu of a preset moves only the menu that comes up. -/
theorem keepsPlace_enterPreset {m : Material} :
    (enterPreset m).Leaves (KeepsPlace up places) a s := by
  apply leaves_withEntry (.inr h)
  intro item _
  rw [leaves_bind, ensures_panel]
  cases item with
  | back => exact keepsPlace_backToList h .temperature _
  | save => exact (leaves_send _).mpr (.inr h)
  | hotend | bed | fan => exact keepsPlace_beginEdit h _ _ _ _

end Menus

/-! ### Keys during a print, on popups and while probing -/

section Others

variable (h : places.Alike up s.panel.places)

include h

/-- Asking a question moves no menu. -/
theorem keepsPlace_ask (action : PrintAction) : (ask action).Leaves (KeepsPlace up places) a s := by
  simp only [ask, leaves_bind, ensures_change, leaves_goTo]
  exact .inr (h.cursors _ ⟨1⟩ _)

/-- A button of the print screen moves only the menu that comes up. -/
theorem keepsPlace_pressPrintButton {button : Nat} :
    (pressPrintButton button).Leaves (KeepsPlace up places) a s := by
  unfold pressPrintButton
  split
  · exact keepsPlace_openList h .tune
  · rw [leaves_bind, ensures_panel]
    split
    · simp only [leaves_bind, ensures_send, ensures_change, ensures_panel, leaves_draw]
      exact ⟨fun _ => .inr h, fun _ _ => .inr h⟩
    · exact keepsPlace_ask h .pause
  · exact keepsPlace_ask h .stop

/-- A key on the print screen moves only the menu that comes up. -/
theorem keepsPlace_printProcess {symbol : Symbol} :
    (printProcess symbol).Leaves (KeepsPlace up places) a s := by
  simp only [printProcess, leaves_bind, ensures_panel]
  split
  · split
    · simp only [leaves_bind, ensures_change, leaves_goTo]
      by_cases hmain : up = .mainMenu
      · exact .inl hmain.symm
      · exact .inr (h.turnPage hmain _)
    · exact .inr h
  · split
    · split
      · simp only [leaves_bind, ensures_change, leaves_draw]
        exact .inr (h.cursors _ _ _)
      · exact .inr h
    · split
      · exact keepsPlace_pressPrintButton h
      · exact .inr h

/-- A key on a question moves only the menu that comes up. -/
theorem keepsPlace_printWindow {symbol : Symbol} :
    (printWindow symbol).Leaves (KeepsPlace up places) a s := by
  unfold printWindow
  split
  · simp only [turnAnswer, leaves_bind, ensures_panel]
    split
    · simp only [leaves_bind, ensures_change, leaves_draw]
      exact .inr (h.cursors _ _ _)
    · exact .inr h
  · split
    · simp only [giveAnswer, leaves_bind, ensures_panel, ensures_change]
      split
      · simp only [leaves_bind, ensures_send, ensures_change, leaves_goTo]
        exact ⟨fun _ => .inr h, fun _ _ => .inr h⟩
      · simp only [leaves_bind, ensures_send, ensures_change, leaves_goTo]
        refine ⟨fun _ => ?_, fun _ _ => .inr h⟩
        by_cases hmain : up = .mainMenu
        · exact .inl hmain.symm
        · exact .inr (h.turnPage hmain _)
      · apply keepsPlace_goTo
        exact h
    · exact .inr h

/-- A key in the browser for pictograms moves only the menu that comes up. -/
theorem keepsPlace_iconFinder {symbol : Symbol} :
    (iconFinder symbol).Leaves (KeepsPlace up places) a s := by
  unfold iconFinder
  split
  · rw [leaves_bind, ensures_panel]
    dsimp only
    split
    · simp only [leaves_bind, ensures_change, ensures_panel, leaves_draw]
      exact .inr (h.cursors _ _ _)
    · exact .inr h
  · split
    · exact keepsPlace_goTo h _
    · exact .inr h

/-- A key while the bed is probed by hand moves only the menu that comes up. -/
theorem keepsPlace_manualProbe {symbol : Symbol} :
    (manualProbe symbol).Leaves (KeepsPlace up places) a s := by
  have hmove (allowed : Bool) (um : Int) {t : Scene} (ht : t.panel = s.panel) :
      (moveProbe allowed um).Leaves (KeepsPlace up places) a t := by
    unfold moveProbe
    rw [← ht] at h
    cases allowed <;>
      simp only [leaves_bind, ensures_send, ensures_change, ensures_panel, leaves_draw, if_true,
        Bool.false_eq_true, if_false]
    · exact .inr h
    · exact ⟨fun _ => .inr h, fun _ _ => .inr h⟩
  simp only [manualProbe, leaves_bind, ensures_report, ensures_panel]
  cases symbol with
  | cw | fastCw | ccw | fastCcw => exact hmove _ _ rfl
  | enter =>
    simp only [leaves_bind, ensures_change, ensures_panel, leaves_draw]
    exact .inr h
  | longEnter =>
    simp only [leaves_bind, ensures_send, ensures_change, leaves_goTo]
    exact ⟨fun _ => .inr h, fun _ _ => .inr h⟩
  | idle => exact .inr h

/-- A key on an open edit moves no menu. -/
theorem keepsPlace_valueEdit {symbol : Symbol} :
    (valueEdit symbol).Leaves (KeepsPlace up places) a s := by
  rw [valueEdit_eq, leaves_bind, ensures_panel]
  split
  · exact keepsPlace_goTo h _
  · next e _ =>
    split
    · unfold acceptEdit
      rw [leaves_bind, ensures_change, leaves_bind, ensures_panel]
      apply Leaves.bind (I := KeepsPlace up places)
      · exact (leaves_draw _).mpr (.inr h)
      · intro _ t ht
        cases e.effect with
        | command c => exact (leaves_send c).mpr ht
        | preset m field value => exact ht
    · split
      · simp only [leaves_bind, ensures_change, leaves_draw]
        exact .inr h
      · exact .inr h

/-- A key on the notice that a function is missing moves no menu. -/
theorem keepsPlace_featureNotAvailable {symbol : Symbol} :
    (featureNotAvailable symbol).Leaves (KeepsPlace up places) a s := by
  unfold featureNotAvailable
  split
  · simp only [leaves_bind, ensures_panel, ensures_change]
    apply keepsPlace_goTo
    exact h
  · exact .inr h

/-- A key on a message moves no menu. -/
theorem keepsPlace_messagePopup {symbol : Symbol} :
    (messagePopup symbol).Leaves (KeepsPlace up places) a s := by
  unfold messagePopup
  split
  · simp only [leaves_bind, ensures_panel, ensures_change]
    apply keepsPlace_goTo
    exact h
  · exact .inr h

/-- A key on the warning of a cold hotend moves no menu. -/
theorem keepsPlace_tooCold {symbol : Symbol} :
    (tooCold symbol).Leaves (KeepsPlace up places) a s := by
  unfold tooCold
  split
  · exact keepsPlace_goTo h _
  · exact .inr h

/-- A key moves the place of no menu but the one that is up and the one that comes up. -/
theorem keepsPlace_handle (hother : s.panel.screen ≠ up) (symbol : Symbol) :
    (handle s.panel.screen symbol).Leaves (KeepsPlace up places) a s := by
  cases hscreen : s.panel.screen <;> rw [hscreen] at hother
  case mainMenu => exact keepsPlace_mainMenu h hother.symm
  case selectFile =>
    exact keepsPlace_listKey h hother (keepsPlace_enterFiles h hother.symm)
  case prepare => exact keepsPlace_listKey h hother (keepsPlace_enterPrepare h)
  case control => exact keepsPlace_listKey h hother (keepsPlace_enterControl h)
  case misc => exact keepsPlace_listKey h hother (keepsPlace_enterMisc h hother.symm)
  case axisMove => exact keepsPlace_listKey h hother (keepsPlace_enterAxes h)
  case temperature => exact keepsPlace_listKey h hother (keepsPlace_enterTemperature h)
  case motion => exact keepsPlace_listKey h hother (keepsPlace_enterMotion h)
  case tune => exact keepsPlace_listKey h hother (keepsPlace_enterTune h)
  case plaPreheat | tpuPreheat =>
    exact keepsPlace_listKey h hother (keepsPlace_enterPreset h)
  case info => exact keepsPlace_info h
  case printProcess => exact keepsPlace_printProcess h
  case printWindow => exact keepsPlace_printWindow h
  case manualProbe => exact keepsPlace_manualProbe h
  case iconFinder => exact keepsPlace_iconFinder h
  case featureNotAvailable => exact keepsPlace_featureNotAvailable h
  case messagePopup => exact keepsPlace_messagePopup h
  case tooCold => exact keepsPlace_tooCold h
  case homing => exact .inr h
  case maxSpeed | maxSpeedValue | maxAcceleration | maxAccelerationValue | maxJerk | maxJerkValue |
      step | stepValue =>
    exact keepsPlace_motionEditor h
  case moveX | moveY | moveZ | extruder | hotendTemp | zOffset | bedTemp | fanSpeed | printSpeed =>
    exact keepsPlace_valueEdit h

/-- The press that opens a menu keeps the place of the one with its entry. -/
theorem keepsPlace_press (hup : up ∈ [.mainMenu, .prepare, .control, .temperature]) :
    (handle s.panel.screen .enter).Leaves (KeepsPlace up places) a s := by
  by_cases hscreen : s.panel.screen = up
  · rw [hscreen]
    simp only [List.mem_cons, List.not_mem_nil, or_false] at hup
    obtain rfl | rfl | rfl | rfl := hup
    · exact keepsPlace_openPage h _
    · exact keepsPlace_enterPrepare h
    · exact keepsPlace_enterControl h
    · exact keepsPlace_enterTemperature h
  · exact keepsPlace_handle h hscreen .enter

/-- Commands are declined before any place has changed, and the message for that changes none. -/
theorem keepsPlace_recovering {symbol : Symbol}
    (hkeeps : (handle s.panel.screen symbol).Leaves (KeepsPlace up places) a s) :
    (recovering (handle s.panel.screen symbol)).Leaves (KeepsPlace up places) a s := by
  have hdeclines : (handle s.panel.screen symbol).Declines (places.Alike up ·.places) a s :=
    declines_handle symbol (fun _ _ => h) (fun _ => h) fun _ _ _ => h
  have hboth := (Ensures.and hkeeps hdeclines).mono (fun _ _ ht => ht.1) fun _ _ ht => ht
  apply hboth.recovering
  · exact fun _ _ ht => ht.1
  · rintro r t ⟨-, _, _, _, hdeclined⟩
    refine (leaves_showMessage _).mpr (.inr ?_)
    rw [Panel.withMessage_places]
    exact hdeclined.panel

end Others

end Act

/-! ### The entry that leads to a menu -/

/-- A tile of the main menu, or an entry of a list. -/
inductive Entry where
  | tile (page : Nat)
  | item (m : ListMenu) (index : Nat)

namespace Entry

/-- The screen with an entry. -/
def screen : Entry → Screen
  | tile _ => .mainMenu
  | item m _ => m.screen

/-- Put the cursor on an entry. -/
def select : Entry → Places → Places
  | tile page, places => { places with page := ⟨page⟩ }
  | item m index, places => places.select m index

end Entry

/-- The cursor goes back to the entry that it was on. -/
theorem Places.Alike.select {e : Entry} {places other : Places}
    (h : places.Alike e.screen other) (hon : e.select places = places) :
    places.Alike e.screen (e.select other) := by
  cases e with
  | tile page =>
    have hpage : (Places.page ∘ (Entry.tile page).select) places = places.page :=
      congrArg Places.page hon
    exact ⟨fun m hm => absurd hm m.screen_ne_mainMenu, fun _ => hpage⟩
  | item m index =>
    have hplace : other.get m = places.get m := h.lists m rfl
    refine ⟨fun m' hm' => ?_, fun hmain => absurd hmain m.screen_ne_mainMenu⟩
    obtain rfl := ListMenu.screen_injective hm'
    calc (other.select m' index).get m'
        = (places.select m' index).get m' := by simp [Places.select, Places.get_set, hplace]
      _ = places.get m' := congrArg (·.get m') hon

/-- The entry that the way back out of a menu leads to. -/
def wayBack (f : Features) : Screen → Option Entry
  | .selectFile => some (.tile 0)
  | .prepare => some (.tile 1)
  | .control => some (.tile 2)
  | .misc => some (.tile 3)
  | .info =>
    some (if f.miscPage then .item .control (positionOf ControlItem.list .info) else .tile 3)
  | .axisMove => some (.item .prepare (positionOf (PrepareItem.list f) .move))
  | .temperature => some (.item .control (positionOf ControlItem.list .temperature))
  | .motion => some (.item .control (positionOf ControlItem.list .motion))
  | .plaPreheat => some (.item .temperature (positionOf (TemperatureItem.list f) .plaPreset))
  | .tpuPreheat => some (.item .temperature (positionOf (TemperatureItem.list f) .tpuPreset))
  | _ => none

namespace Panel

variable {p q : Panel} {child : Screen} {e : Entry} {op : Operation} {a : Answers}
  {places : Places}

/-- The menu that is opened by what the cursor is on. -/
def opens (p : Panel) : Option Screen :=
  let f := p.settings.features
  match p.screen with
  | .mainMenu =>
    match p.places.page.position with
    | 0 => some .selectFile
    | 1 => some .prepare
    | 2 => some .control
    | _ => some (if f.miscPage then .misc else .info)
  | .prepare =>
    match (PrepareItem.list f)[p.places.prepare.position]? with
    | some .move => some .axisMove
    | _ => none
  | .control =>
    match ControlItem.list[p.places.control.position]? with
    | some .temperature => some .temperature
    | some .motion => some .motion
    | some .info => if f.miscPage then some .info else none
    | _ => none
  | .temperature =>
    match (TemperatureItem.list f)[p.places.temperature.position]? with
    | some .plaPreset => some .plaPreheat
    | some .tpuPreset => some .tpuPreheat
    | _ => none
  | _ => none

/-- The cursor is where it would be put if it were put on its tile. -/
theorem select_tile {page : Nat} (h : p.places.page.position = page) :
    (Entry.tile page).select p.places = p.places := by
  rw [Entry.select, ← h]

/-- In the place of a list nothing changes if its cursor is put on the entry that it is on. -/
theorem Placed.select_item {α : Type} [DecidableEq α] {m : ListMenu} {items : List α} {x : α}
    (hplaced : p.Placed) (hnodup : items.Nodup)
    (h : items[(p.places.get m).position]? = some x) :
    (Entry.item m (positionOf items x)).select p.places = p.places := by
  rw [Entry.select, positionOf_of_getElem? hnodup h, Places.select,
    (hplaced.lists m).select_position, Places.set_get_self]

/-- The way back out of a menu leads to the entry that opens it. -/
theorem Placed.opens_wayBack (hplaced : p.Placed) (h : p.opens = some child) :
    ∃ e, wayBack p.settings.features child = some e ∧ e.screen = p.screen ∧
      e.select p.places = p.places := by
  unfold opens at h
  cases hscreen : p.screen <;> simp only [hscreen, reduceCtorEq] at h
  case mainMenu =>
    split at h
    · next hpage =>
      cases h
      exact ⟨.tile 0, rfl, rfl, select_tile hpage⟩
    · next hpage =>
      cases h
      exact ⟨.tile 1, rfl, rfl, select_tile hpage⟩
    · next hpage =>
      cases h
      exact ⟨.tile 2, rfl, rfl, select_tile hpage⟩
    · next hfiles hprepare hcontrol =>
      have hlast : p.places.page.position = 3 := by
        have hpage : p.places.page.position < 4 := hplaced.page
        rw [imp_false] at hfiles hprepare hcontrol
        omega
      refine ⟨.tile 3, ?_, rfl, select_tile hlast⟩
      cases hmisc : p.settings.features.miscPage <;> rw [hmisc] at h <;> cases h
      · simp [wayBack, hmisc]
      · rfl
  case prepare =>
    split at h
    · next hmove =>
      cases h
      exact ⟨_, rfl, rfl, hplaced.select_item (PrepareItem.nodup_list _) hmove⟩
    · contradiction
  case control =>
    split at h
    · next htemperature =>
      cases h
      exact ⟨_, rfl, rfl, hplaced.select_item ControlItem.nodup_list htemperature⟩
    · next hmotion =>
      cases h
      exact ⟨_, rfl, rfl, hplaced.select_item ControlItem.nodup_list hmotion⟩
    · next hinfo =>
      split at h
      · next hmisc =>
        cases h
        refine ⟨.item .control _, ?_, rfl, hplaced.select_item ControlItem.nodup_list hinfo⟩
        rw [wayBack, if_pos hmisc]
      · contradiction
    · contradiction
  case temperature =>
    split at h
    · next hpla =>
      cases h
      exact ⟨_, rfl, rfl, hplaced.select_item (TemperatureItem.nodup_list _) hpla⟩
    · next htpu =>
      cases h
      exact ⟨_, rfl, rfl, hplaced.select_item (TemperatureItem.nodup_list _) htpu⟩
    · contradiction

/-- Menus are opened from the main menu and from three of the lists. -/
theorem wayBack_screen {f : Features} (h : wayBack f child = some e) :
    e.screen ∈ [.mainMenu, .prepare, .control, .temperature] ∧ child ≠ e.screen := by
  cases child <;> simp only [wayBack, Option.some.injEq, reduceCtorEq] at h
  case info =>
    subst h
    split <;> simp [Entry.screen, ListMenu.screen]
  all_goals
    subst h
    simp [Entry.screen, ListMenu.screen]

/-! ### The way back -/

/-- What a press on the way back out of a menu takes: the cursor is on its first entry, and no
folder is open in the file browser. -/
structure AtWayBack (p : Panel) : Prop where
  first : ∀ m : ListMenu, m.screen = p.screen → (p.places.get m).position = 0
  top : p.screen = .selectFile → p.browser.isTop = true

/-- The way back out of a list selects the entry that leads there, and moves no other cursor in the
menu of that. -/
theorem Bearings.back_wayBack {b : Bearings} {m : ListMenu}
    (h : wayBack b.features m.screen = some e) (htop : m = .files → b.folder.isEmpty = true)
    (halike : places.Alike e.screen b.places) (hon : e.select places = places) :
    (b.back m).1 = e.screen ∧ places.Alike e.screen (b.back m).2.places := by
  have hselect : places.Alike e.screen (e.select b.places) := halike.select hon
  cases m with
  | files =>
    cases h
    rw [Bearings.back, if_pos (htop rfl)]
    exact ⟨rfl, hselect⟩
  | prepare | control | axes | temperature | motion =>
    cases h
    exact ⟨rfl, hselect⟩
  | misc =>
    cases h
    have hrewound : places.Alike (Entry.tile 3).screen (b.places.rewind .misc) :=
      halike.set (m := .misc) (by decide) .start
    exact ⟨rfl, hrewound.select hon⟩
  | tune => contradiction
  | preset material =>
    cases material <;> cases h <;> exact ⟨rfl, hselect⟩

/-- The page of machine data and the lists are left by a press. -/
theorem wayBack_cases {f : Features} {screen : Screen} (h : wayBack f screen = some e) :
    screen = .info ∨ ∃ m : ListMenu, m.screen = screen := by
  cases screen <;> simp only [wayBack, reduceCtorEq] at h
  case info => exact .inl rfl
  case selectFile => exact .inr ⟨.files, rfl⟩
  case prepare => exact .inr ⟨.prepare, rfl⟩
  case control => exact .inr ⟨.control, rfl⟩
  case misc => exact .inr ⟨.misc, rfl⟩
  case axisMove => exact .inr ⟨.axes, rfl⟩
  case temperature => exact .inr ⟨.temperature, rfl⟩
  case motion => exact .inr ⟨.motion, rfl⟩
  case plaPreheat => exact .inr ⟨.preset .pla, rfl⟩
  case tpuPreheat => exact .inr ⟨.preset .tpu, rfl⟩

/-- A press on the way back leads to the entry, and the menu of that has kept its place. -/
theorem AtWayBack.arrives {s : Scene} (hat : s.panel.AtWayBack)
    (hback : wayBack s.panel.settings.features s.panel.screen = some e)
    (halike : places.Alike e.screen s.panel.places) (hon : e.select places = places) :
    (Act.handle s.panel.screen .enter).Arrives
      (fun q => q.screen = e.screen ∧ places.Alike e.screen q.places) a s := by
  obtain hinfo | ⟨m, hm⟩ := wayBack_cases hback
  · rw [hinfo] at hback ⊢
    cases hback
    change (Act.info .enter).Arrives _ a s
    simp only [Act.info, if_true, Act.arrives_panel_bind]
    cases hmisc : s.panel.settings.features.miscPage with
    | true =>
      rw [hmisc] at halike hon
      rw [if_pos rfl, Act.backToList, Act.arrives_change_bind]
      exact Act.arrives_goTo _ ⟨rfl, halike.select hon⟩
    | false =>
      rw [hmisc] at halike hon
      rw [if_neg (by decide), Act.backToMainMenu, Act.arrives_change_bind]
      exact Act.arrives_goTo _ ⟨rfl, halike.select hon⟩
  · rw [← hm] at hback ⊢
    have htop : m = .files → s.panel.bearings.folder.isEmpty = true := by
      rintro rfl
      exact hat.top hm.symm
    obtain ⟨hscreen, hplaces⟩ := Bearings.back_wayBack hback htop halike hon
    have hends {q : Panel} (hq : q.At (s.panel.bearings.back m).1 (s.panel.bearings.back m).2) :
        q.screen = e.screen ∧ places.Alike e.screen q.places := by
      rw [← hq.bearings] at hplaces
      exact ⟨hq.screen.trans hscreen, hplaces⟩
    apply (Bearings.arrives_back m (hat.first m hm) rfl).mono
    · exact fun _ t ht => hends ht
    · exact fun f t ht => ⟨ht.1, hends ht.2⟩

/-! ### Operations of the knob -/

/-- What the screen arrives at by handling the key of an operation. -/
theorem perform_of_key {I : Panel → Prop} {k : Key} (hop : op.ofKnob) (hkey : p.keyOf op = some k)
    (h : ∀ (t : Scene) (knob : Knob), t.panel = { p.awake with knob := knob } →
      (Act.recovering (Act.handle t.panel.screen (p.symbolOf k))).Leaves I a t) :
    I (p.perform op a).panel := by
  refine perform_of_scene (J := fun t => I t.panel) hop hkey fun s knob hs _ _ _ => ?_
  have hscreen : s.panel.screen = p.screen := by rw [hs]; rfl
  rw [← hscreen]
  exact h s knob hs

variable {up : Screen}

/-- While other screens are up, a menu keeps its place. -/
theorem keepsPlace_perform (halike : places.Alike up p.places) (hscreen : p.screen ≠ up)
    (hop : op.ofKnob) : (p.perform op a).panel.KeepsPlace up places := by
  cases hkey : p.keyOf op with
  | none =>
    obtain ⟨knob, hact⟩ := act_of_ofKnob hop
    rw [hkey] at hact
    rw [perform_eq (hact a)]
    exact .inr halike
  | some k =>
    refine perform_of_key hop hkey fun t knob ht => ?_
    have halike' : places.Alike up t.panel.places := ht ▸ halike
    have hscreen' : t.panel.screen ≠ up := ht ▸ hscreen
    exact Act.keepsPlace_recovering halike' (Act.keepsPlace_handle halike' hscreen' _)

/-- A menu keeps its place when another is opened from it. -/
theorem keepsPlace_opening (hup : p.screen ∈ [.mainMenu, .prepare, .control, .temperature])
    (hkey : p.keyOf op = some .click) :
    (p.perform op a).panel.KeepsPlace p.screen p.places := by
  refine perform_of_key (ofKnob_of_click hkey) hkey fun t knob ht => ?_
  have halike : p.places.Alike p.screen t.panel.places := ht ▸ .refl p.screen p.places
  rw [symbolOf_click]
  exact Act.keepsPlace_recovering halike (Act.keepsPlace_press halike hup)

/-- The press on the way back leads to the entry. -/
theorem AtWayBack.perform (hat : p.AtWayBack)
    (hback : wayBack p.settings.features p.screen = some e)
    (halike : places.Alike e.screen p.places) (hon : e.select places = places)
    (hkey : p.keyOf op = some .click) :
    (p.perform op a).panel.screen = e.screen ∧
      places.Alike e.screen (p.perform op a).panel.places := by
  refine perform_of_key (I := fun q => q.screen = e.screen ∧ places.Alike e.screen q.places)
    (ofKnob_of_click hkey) hkey fun t knob ht => ?_
  have hat' : t.panel.AtWayBack := ht ▸ ⟨hat.first, hat.top⟩
  have hback' : wayBack t.panel.settings.features t.panel.screen = some e := ht ▸ hback
  have halike' : places.Alike e.screen t.panel.places := ht ▸ halike
  rw [symbolOf_click]
  exact (hat'.arrives hback' halike' hon).recovering

/-! ### Any panel that can be reached -/

/-- A menu that is opened by a press is left by its way back for the menu with that entry, and that
is found with cursor and window as they were, whatever is done in between on other screens. -/
theorem Reachable.back_restores (h : p.Reachable) {opening closing : Operation}
    {a a' : Answers} {ops : List (Operation × Answers)} (hopens : p.opens = some child)
    (hopening : p.keyOf opening = some .click) :
    let q := (p.perform opening a).panel
    let r := (q.run ops).1
    let t := (r.perform closing a').panel
    q.screen = child → q.Throughout (fun q op _ => op.ofKnob ∧ q.screen ≠ p.screen) ops →
      r.screen = child → r.AtWayBack → r.keyOf closing = some .click →
      t.screen = p.screen ∧ p.places.Alike p.screen t.places := by
  intro q r t hchild hops hr hat hclosing
  obtain ⟨e, hback, hup, hon⟩ := h.placed.opens_wayBack hopens
  obtain ⟨hmenu, hother⟩ := wayBack_screen hback
  rw [hup] at hmenu hother
  have halike {q : Panel} (hkeeps : q.KeepsPlace p.screen p.places) (hq : q.screen ≠ p.screen) :
      p.places.Alike p.screen q.places := hkeeps.resolve_left hq
  have hopened : q.KeepsPlace p.screen p.places := keepsPlace_opening hmenu hopening
  obtain ⟨hkeeps, hfeatures⟩ : r.KeepsPlace p.screen p.places ∧
      r.settings.features = p.settings.features := by
    -- The entries, and with them the way back, stay as well.
    apply hops.run (I := fun q => q.KeepsPlace p.screen p.places ∧
      q.settings.features = p.settings.features)
    · rintro q op a ⟨hop, hscreen⟩ ⟨hkeeps, hfeatures⟩
      exact ⟨keepsPlace_perform (halike hkeeps hscreen) hscreen hop,
        (perform_features q op a).trans hfeatures⟩
    · exact ⟨hopened, perform_features p opening a⟩
  have hplaces : p.places.Alike p.screen r.places := halike hkeeps (hr ▸ hother)
  rw [← hup] at hplaces ⊢
  rw [← hfeatures, ← hr] at hback
  exact hat.perform hback hplaces hon hclosing

/-- A preset is edited below the control menu, and the way back finds the cursor on the entry for
temperatures. -/
theorem back_restores_edited :
    let keys (ks : List Key) := ks.map fun k => (Operation.key k, Answers.smooth)
    let p := ((ofSettings .standard 240 320).run
      ((.start, .smooth) :: keys [.down, .down, .click, .down])).1
    let q := (p.perform (.key .click) .smooth).panel
    let ops := keys [.down, .down, .down, .down, .click, .down, .click, .down, .click, .up, .click,
      .up, .up, .up, .up]
    let r := (q.run ops).1
    let t := (r.perform (.key .click) .smooth).panel
    p.Reachable ∧ p.opens = some .temperature ∧ q.screen = .temperature ∧
      q.Throughout (fun q op _ => op.ofKnob ∧ q.screen ≠ p.screen) ops ∧
      r.settings ≠ p.settings ∧ r.AtWayBack ∧
      t.screen = .control ∧ t.places.control.position = 1 ∧
        p.places.Alike .control t.places := by
  intro keys p q ops r t
  have hops : ∀ x ∈ keys [.down, .down, .click, .down], x.1 ≠ .start := by decide
  have hreached : p.Reachable := reachable_of_start .standard 240 320 .smooth hops
  have hopens : p.opens = some .temperature := by decide +kernel
  have hscreen : p.screen = .control := by decide +kernel
  have hposition : p.places.control.position = 1 := by decide +kernel
  have hopened : q.screen = .temperature := by decide +kernel
  have hkeys : q.Throughout (fun q op _ => op.ofKnob ∧ q.screen ≠ p.screen) ops := by
    decide +kernel
  have hedited : r.settings ≠ p.settings := by decide +kernel
  have hback : r.screen = .temperature := by decide +kernel
  have hfirst : r.places.temperature.position = 0 := by decide +kernel
  -- The runs are not to be computed once more.
  clear_value p ops
  have hat : r.AtWayBack := by
    refine ⟨fun m hm => ?_, by simp [hback]⟩
    obtain rfl : m = .temperature := ListMenu.screen_injective (hm.trans hback)
    exact hfirst
  have hopening : p.keyOf (.key .click) = some .click := rfl
  have hclosing : r.keyOf (.key .click) = some .click := rfl
  obtain ⟨hup, halike⟩ : t.screen = p.screen ∧ p.places.Alike p.screen t.places :=
    hreached.back_restores hopens hopening hopened hkeys hback hat hclosing
  rw [hscreen] at hup halike
  have hplace : t.places.control = p.places.control := halike.lists .control rfl
  exact ⟨hreached, hopens, hopened, hkeys, hedited, hat, hup, by rw [hplace, hposition], halike⟩

end Panel

end PrinterPanel
