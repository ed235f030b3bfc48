import PrinterPanel.Proofs.Commands
import PrinterPanel.Proofs.Priority

/-!
# What becomes of an edit

A press on an entry of a menu opens an edit, whose value comes from the report at hand or from a
preset. From then on every key turns the value or accepts it, and everything else leaves the edit
alone or puts it away. The settings change only when the edit of a preset is accepted.
-/

namespace PrinterPanel

open Menu

/-! ### What a press opens -/

/-- By a report, the extruder has to be kept from moving. -/
def Settings.TooCold (s : Settings) (r : Status) : Prop :=
  s.features.coldGuard ∧ r.hotend.current < s.limits.minExtrudeTemp

instance (s : Settings) (r : Status) : Decidable (s.TooCold r) :=
  inferInstanceAs (Decidable (_ ∧ _))

namespace Menu

/-- The field that an entry of the prepare menu opens, and the value that it begins with. -/
def PrepareItem.begins (r : Status) : PrepareItem → Option (Field × Int)
  | zOffset => some (.zOffset, r.zOffset)
  | back | move | disableSteppers | home | preheatPla | preheatTpu | cooldown => none

/-- The field that an entry of the axis menu opens. The extruder is opened while it is warm. -/
def AxisItem.begins (s : Settings) (r : Status) : AxisItem → Option (Field × Int)
  | back => none
  | x => some (.axis .x, positionSteps r.position.x)
  | y => some (.axis .y, positionSteps r.position.y)
  | z => some (.axis .z, positionSteps r.position.z)
  | e =>
    let origin := positionSteps r.position.e
    if s.TooCold r then none else some (.extruder origin, origin)

/-- The field that an entry of the temperature menu opens. -/
def TemperatureItem.begins (r : Status) : TemperatureItem → Option (Field × Int)
  | hotend => some (.hotend .live, r.hotend.target)
  | bed => some (.bed .live, r.bed.target)
  | fan => some (.fan .live, r.fan)
  | back | plaPreset | tpuPreset => none

/-- The field that an entry of the tune menu opens. -/
def TuneItem.begins (r : Status) : TuneItem → Option (Field × Int)
  | back => none
  | speed => some (.printSpeed, r.feedrate)
  | hotend => some (.hotend .live, r.hotend.target)
  | bed => some (.bed .live, r.bed.target)
  | fan => some (.fan .live, r.fan)
  | zOffset => some (.zOffset, r.zOffset)

/-- The field that an entry of the menu of a preset opens. -/
def PreheatItem.begins (m : Material) (p : Preset) : PreheatItem → Option (Field × Int)
  | hotend => some (.hotend (.preset m), p.hotend)
  | bed => some (.bed (.preset m), p.bed)
  | fan => some (.fan (.preset m), p.fan)
  | back | save => none

end Menu

/-- The settings after an effect. -/
def Settings.accepting (s : Settings) : EditEffect → Settings
  | .command _ => s
  | .preset m field value => { s with presets := s.presets.update m (·.store field value) }

namespace Panel

/-- The edit that the entry of a list opens, if the cursor is on one that does. -/
def opensAt {α : Type} (p : Panel) (m : ListMenu) (items : Features → List α)
    (begins : α → Option (Field × Int)) : Option Edit :=
  ((items p.settings.features)[(p.places.get m).position]?.bind begins).map fun begun =>
    .start begun.1 begun.2 p.settings.limits m.screen (p.places.get m).row

/-- The edit that a press opens, with the report at hand. -/
def opened (p : Panel) (r : Status) : Option Edit :=
  let preset := p.settings.presets.get
  match p.screen with
  | .prepare => p.opensAt .prepare PrepareItem.list (·.begins r)
  | .axisMove => p.opensAt .axes (fun _ => AxisItem.list) (·.begins p.settings r)
  | .temperature => p.opensAt .temperature TemperatureItem.list (·.begins r)
  | .tune => p.opensAt .tune TuneItem.list (·.begins r)
  | .plaPreheat => p.opensAt (.preset .pla) PreheatItem.list (·.begins .pla (preset .pla))
  | .tpuPreheat => p.opensAt (.preset .tpu) PreheatItem.list (·.begins .tpu (preset .tpu))
  | _ => none

/-- The edit in progress, and the settings that it may change. -/
def draft (p : Panel) : Option Edit × Settings := (p.edit, p.settings)

/-- A draft is an edit with settings. -/
@[simp] theorem draft_eq_iff {p : Panel} {edit : Option Edit} {settings : Settings} :
    p.draft = (edit, settings) ↔ p.edit = edit ∧ p.settings = settings :=
  Prod.mk.injEq _ _ _ _ ▸ Iff.rfl

/-- What a symbol may make of an edit and the settings. An edit that is accepted is without effect
if its settled value cannot be shown, or if its command is declined. -/
def draftsAfter (p : Panel) (r : Status) (symbol : Symbol) : List (Option Edit × Settings) :=
  match p.edit with
  | none => [(if symbol = .enter then p.opened r else none, p.settings)]
  | some e =>
    if symbol = .enter then [(none, p.settings), (none, p.settings.accepting e.effect)]
    else [(some (e.turn symbol), p.settings)]

end Panel

namespace Act

variable {a : Answers} {s : Scene} {symbol : Symbol}

/-- An act that ends with an edit and settings, and notes no report. -/
def Drafts (act : Act Unit) (draft : Option Edit × Settings) (a : Answers) (s : Scene) : Prop :=
  act.Leaves (fun q => q.draft = draft ∧ q.lastStatus = s.panel.lastStatus) a s

/-- An act that ends with one of some edits and settings, and notes no report. -/
def DraftsAmong (act : Act Unit) (drafts : List (Option Edit × Settings)) (a : Answers)
    (s : Scene) : Prop :=
  act.Leaves (fun q => q.draft ∈ drafts ∧ q.lastStatus = s.panel.lastStatus) a s

/-! ### The menus -/

/-- Opening a list leaves edit and settings alone. -/
theorem drafts_openList (m : ListMenu) : (openList m).Drafts s.panel.draft a s := by
  simp [Drafts, Panel.draft, openList]

/-- Going back to a list leaves edit and settings alone. -/
theorem drafts_backToList (m : ListMenu) (item : Nat) :
    (backToList m item).Drafts s.panel.draft a s := by
  simp [Drafts, Panel.draft, backToList]

/-- Going back to the main menu leaves edit and settings alone. -/
theorem drafts_backToMainMenu (page : Nat) :
    (backToMainMenu page).Drafts s.panel.draft a s := by
  simp [Drafts, Panel.draft, backToMainMenu]

/-- The edit that begins is the one of the field, within the limits of the settings. -/
theorem drafts_beginEdit (field : Field) (value : Int) (returnTo : Screen) (row : Nat) :
    (beginEdit field value returnTo row).Drafts
      (some (.start field value s.panel.settings.limits returnTo row), s.panel.settings) a s := by
  simp [Drafts, beginEdit]

/-- The notice for what is not available leaves edit and settings alone. -/
theorem drafts_notAvailable : notAvailable.Drafts s.panel.draft a s := by
  simp [Drafts, Panel.draft, notAvailable]

/-- The main menu leaves edit and settings alone. -/
theorem drafts_mainMenu : (mainMenu symbol).Drafts s.panel.draft a s := by
  simp only [Drafts, mainMenu, leaves_bind, ensures_panel]
  split
  · split <;> simp [Panel.draft]
  · split
    · unfold openPage
      split
      · simp [loadFiles, openList, Panel.draft]
      · exact drafts_openList _
      · exact drafts_openList _
      · rw [leaves_bind, ensures_panel]
        split
        · exact drafts_openList _
        · simp [Panel.draft]
    · exact ⟨rfl, rfl⟩

/-- On a list only a press may open an edit. -/
theorem drafts_listKey (hedit : s.panel.edit = none) {m : ListMenu} {enter : Act Unit}
    {opened : Option Edit} (henter : enter.Drafts (opened, s.panel.settings) a s) :
    (listKey m enter symbol).Drafts
      (if symbol = .enter then opened else none, s.panel.settings) a s := by
  unfold listKey
  by_cases hturn : symbol.isTurn = true
  · have hother : symbol ≠ .enter := by
      rintro rfl
      contradiction
    rw [if_pos hturn, if_neg hother]
    simp only [Drafts, turnList, leaves_bind, ensures_panel, ensures_change]
    split <;> simp [hedit]
  · rw [if_neg hturn]
    split
    · exact henter
    · simp [Drafts, hedit]

/-- A press opens what the entry under the cursor opens. -/
theorem drafts_withEntry (hedit : s.panel.edit = none) {α : Type} {m : ListMenu}
    {items : Features → List α} {act : α → Act Unit} {begins : α → Option (Field × Int)}
    (hact : ∀ item, (act item).Drafts
      ((begins item).map fun begun => .start begun.1 begun.2 s.panel.settings.limits m.screen
        (s.panel.places.get m).row, s.panel.settings) a s) :
    (withEntry m items act).Drafts (s.panel.opensAt m items begins, s.panel.settings) a s := by
  simp only [Drafts, withEntry, leaves_bind, ensures_panel, Panel.opensAt]
  split
  · next hitem => simp [hitem, hedit]
  · next item hitem =>
    rw [hitem, Option.bind_some]
    exact hact item

/-- A list without entries that open an edit. -/
theorem drafts_withEntry_none {α : Type} {m : ListMenu} {items : Features → List α}
    {act : α → Act Unit} (hact : ∀ item, (act item).Drafts s.panel.draft a s) :
    (withEntry m items act).Drafts s.panel.draft a s := by
  simp only [Drafts, withEntry, leaves_bind, ensures_panel]
  split
  · exact ⟨rfl, rfl⟩
  · exact hact _

/-- A press in the file browser leaves edit and settings alone. -/
theorem drafts_enterFiles : enterFiles.Drafts s.panel.draft a s := by
  simp only [Drafts, enterFiles, leaves_bind, ensures_panel]
  split
  · simp only [leaves_bind, ensures_change]
    split <;> simp [openList, backToMainMenu, Panel.draft]
  · simp only [leaves_bind, ensures_change]
    split <;> simp [openList, startPrint, Panel.draft]

/-- A press in the prepare menu opens the edit of its entry, if the entry has one. -/
theorem drafts_enterPrepare (hedit : s.panel.edit = none) :
    enterPrepare.Drafts (s.panel.opensAt .prepare PrepareItem.list
      (·.begins (s.panel.reportAt a s.looks)), s.panel.settings) a s := by
  apply drafts_withEntry hedit
  intro item
  cases item with
  | preheatPla | preheatTpu =>
    exact leaves_preheat ⟨by simp [hedit, PrepareItem.begins], rfl⟩
  | zOffset =>
    simp only [Drafts, leaves_bind, ensures_report, ensures_panel]
    exact drafts_beginEdit (s := { s with looks := s.looks + 1 }) _ _ _ _
  | back | move | disableSteppers | home | cooldown =>
    simp [Drafts, backToMainMenu, openList, hedit, PrepareItem.begins]

/-- A press in the control menu leaves edit and settings alone. -/
theorem drafts_enterControl : enterControl.Drafts s.panel.draft a s := by
  apply drafts_withEntry_none
  intro item
  cases item with
  | back => exact drafts_backToMainMenu _
  | temperature | motion => exact drafts_openList _
  | info => simp [Drafts, Panel.draft]

/-- A press in the list of macros leaves edit and settings alone. -/
theorem drafts_enterMisc : enterMisc.Drafts s.panel.draft a s := by
  simp only [Drafts, enterMisc, leaves_bind, ensures_panel]
  split
  · simp [backToMainMenu, Panel.draft]
  · split <;> simp [Panel.draft]

/-- The page about the machine leaves edit and settings alone. -/
theorem drafts_info : (info symbol).Drafts s.panel.draft a s := by
  unfold Drafts info
  split
  · rw [leaves_bind, ensures_panel]
    split
    · exact drafts_backToList _ _
    · exact drafts_backToMainMenu _
  · exact ⟨rfl, rfl⟩

/-- A press in the motion menu leaves edit and settings alone. -/
theorem drafts_enterMotion : enterMotion.Drafts s.panel.draft a s := by
  apply drafts_withEntry_none
  intro item
  cases item with
  | back => exact drafts_backToList _ _
  | maxSpeed | maxAcceleration | maxJerk | steps => exact drafts_notAvailable

/-- A key in an editor of the motion limits leaves edit and settings alone. -/
theorem drafts_motionEditor : (motionEditor symbol).Drafts s.panel.draft a s := by
  unfold Drafts motionEditor
  split
  · exact drafts_notAvailable
  · exact ⟨rfl, rfl⟩

/-- A press in the menu for tuning opens the edit of its entry, if the entry has one. -/
theorem drafts_enterTune (hedit : s.panel.edit = none) :
    enterTune.Drafts (s.panel.opensAt .tune TuneItem.list
      (·.begins (s.panel.reportAt a s.looks)), s.panel.settings) a s := by
  apply drafts_withEntry hedit
  intro item
  simp only [Drafts, leaves_bind, ensures_report, ensures_panel]
  cases item with
  | back => simp [hedit, TuneItem.begins]
  | speed | hotend | bed | fan | zOffset =>
    exact drafts_beginEdit (s := { s with looks := s.looks + 1 }) _ _ _ _

/-- A press in the menu of the axes opens the edit of an axis, if the hotend is warm enough for
it. -/
theorem drafts_enterAxes (hedit : s.panel.edit = none) :
    enterAxes.Drafts (s.panel.opensAt .axes (fun _ => AxisItem.list)
      (·.begins s.panel.settings (s.panel.reportAt a s.looks)), s.panel.settings) a s := by
  apply drafts_withEntry hedit
  intro item
  cases item with
  | back => simp [Drafts, AxisItem.axis?, AxisItem.begins, backToList, hedit]
  | x | y | z =>
    simp only [Drafts, AxisItem.axis?, beginMove, leaves_bind, ensures_report, ensures_panel]
    exact drafts_beginEdit (s := { s with looks := s.looks + 1 }) _ _ _ _
  | e =>
    simp only [Drafts, AxisItem.axis?, beginMove, leaves_bind, ensures_report, ensures_panel]
    split
    · next hcold =>
      have hrefused : s.panel.settings.TooCold (s.panel.reportAt a s.looks) := hcold
      simp [AxisItem.begins, hrefused, hedit]
    · next hwarm =>
      have hallowed : ¬ s.panel.settings.TooCold (s.panel.reportAt a s.looks) := hwarm
      simp only [AxisItem.begins, if_neg hallowed, Option.map_some]
      exact drafts_beginEdit (s := { s with looks := s.looks + 1 }) _ _ _ _

/-- A press in the temperature menu opens the edit of its entry, if the entry has one. -/
theorem drafts_enterTemperature (hedit : s.panel.edit = none) :
    enterTemperature.Drafts (s.panel.opensAt .temperature TemperatureItem.list
      (·.begins (s.panel.reportAt a s.looks)), s.panel.settings) a s := by
  apply drafts_withEntry hedit
  intro item
  simp only [Drafts, leaves_bind, ensures_report, ensures_panel]
  cases item with
  | back | plaPreset | tpuPreset =>
    simp [backToList, openList, hedit, TemperatureItem.begins]
  | hotend | bed | fan => exact drafts_beginEdit (s := { s with looks := s.looks + 1 }) _ _ _ _

/-- A press in the menu of a preset opens the edit of its entry, if the entry has one. -/
theorem drafts_enterPreset (hedit : s.panel.edit = none) {m : Material} :
    (enterPreset m).Drafts (s.panel.opensAt (.preset m) PreheatItem.list
      (·.begins m (s.panel.settings.presets.get m)), s.panel.settings) a s := by
  apply drafts_withEntry hedit
  intro item
  simp only [Drafts, leaves_bind, ensures_panel]
  cases item with
  | back | save => simp [backToList, hedit, PreheatItem.begins]
  | hotend | bed | fan => exact drafts_beginEdit _ _ _ _

/-! ### A print, popups, probing and edits -/

/-- Asking a question leaves edit and settings alone. -/
theorem drafts_ask (action : PrintAction) : (ask action).Drafts s.panel.draft a s := by
  simp [Drafts, Panel.draft, ask]

/-- The print screen leaves edit and settings alone. -/
theorem drafts_printProcess : (printProcess symbol).Drafts s.panel.draft a s := by
  simp only [Drafts, printProcess, leaves_bind, ensures_panel]
  split
  · split <;> simp [Panel.draft]
  · split
    · split <;> simp [Panel.draft]
    · split
      · unfold pressPrintButton
        split
        · simp [Panel.draft]
        · rw [leaves_bind, ensures_panel]
          split
          · simp [Panel.draft]
          · exact drafts_ask _
        · exact drafts_ask _
      · exact ⟨rfl, rfl⟩

/-- The window with a question leaves edit and settings alone. -/
theorem drafts_printWindow : (printWindow symbol).Drafts s.panel.draft a s := by
  unfold Drafts printWindow
  split
  · simp only [turnAnswer, leaves_bind, ensures_panel]
    split <;> simp [Panel.draft]
  · split
    · simp only [giveAnswer, leaves_bind, ensures_panel, ensures_change]
      split <;> simp [Panel.draft]
    · exact ⟨rfl, rfl⟩

/-- The notice that a function is missing leaves edit and settings alone. -/
theorem drafts_featureNotAvailable : (featureNotAvailable symbol).Drafts s.panel.draft a s := by
  unfold Drafts featureNotAvailable
  split <;> simp [Panel.draft]

/-- The warning of a cold hotend leaves edit and settings alone. -/
theorem drafts_tooCold : (tooCold symbol).Drafts s.panel.draft a s := by
  unfold Drafts tooCold
  split <;> simp [Panel.draft]

/-- A message popup leaves edit and settings alone. -/
theorem drafts_messagePopup : (messagePopup symbol).Drafts s.panel.draft a s := by
  unfold Drafts messagePopup
  split <;> simp [Panel.draft]

/-- The browser for pictograms leaves edit and settings alone. -/
theorem drafts_iconFinder : (iconFinder symbol).Drafts s.panel.draft a s := by
  unfold Drafts iconFinder
  split
  · simp only [leaves_bind, ensures_panel]
    split <;> simp [Panel.draft]
  · split <;> simp [Panel.draft]

/-- Probing by hand leaves edit and settings alone. -/
theorem drafts_manualProbe : (manualProbe symbol).Drafts s.panel.draft a s := by
  have hmove (allowed : Bool) (um : Int) :
      (moveProbe allowed um).Drafts s.panel.draft a { s with looks := s.looks + 1 } := by
    unfold Drafts moveProbe
    cases allowed <;> simp [Panel.draft]
  simp only [Drafts, manualProbe, leaves_bind, ensures_report, ensures_panel]
  cases symbol with
  | cw | fastCw | ccw | fastCcw => exact hmove _ _
  | enter | longEnter | idle => simp [Panel.draft]

/-- An effect changes a number of a preset at most. -/
theorem drafts_takeEffect (effect : EditEffect) :
    (takeEffect effect).Drafts (s.panel.edit, s.panel.settings.accepting effect) a s := by
  cases effect with
  | command c => exact (leaves_send c).mpr ⟨rfl, rfl⟩
  | preset m field value => exact ⟨rfl, rfl⟩

/-- An edit that is accepted is left, and has its effect if its settled value can be shown. -/
theorem draft_acceptEdit (e : Edit) :
    (acceptEdit e).DraftsAmong
      [(none, s.panel.settings), (none, s.panel.settings.accepting e.effect)] a s := by
  let left : Panel := { s.panel with edit := none, screen := e.returnTo, rateLimited := true }
  have hshown (d : Display.Drawing) :
      (draw d).Leaves (· = left) a { s with panel := left } := (leaves_draw d).mpr rfl
  rw [DraftsAmong, acceptEdit, leaves_bind, ensures_change, leaves_bind, ensures_panel,
    leaves_bind]
  apply (hshown _).mono
  · intro _ t ht
    have heffect := drafts_takeEffect (a := a) (s := t) e.effect
    rw [Drafts, ht] at heffect
    exact heffect.mono (fun _ _ hu => by simp [hu, left]) fun _ _ hu => by simp [hu, left]
  · intro _ t ht
    simp [ht, left, Panel.draft]

/-- A symbol that does not accept an edit changes nothing but its value. -/
theorem becomes_valueEdit {e : Edit} (he : s.panel.edit = some e)
    (hsymbol : symbol ≠ .enter) :
    (valueEdit symbol).Becomes { s.panel with edit := some (e.turn symbol) } a s := by
  simp only [valueEdit_eq, becomes_panel_bind, he, if_neg hsymbol]
  split
  · simp
  · next hsame =>
    have hturned : e.turn symbol = e := by
      rw [Edit.turn_eq, Classical.not_not.mp hsame]
    rw [hturned, ← he, becomes_pure]

/-- A symbol turns the value of an edit or accepts it. -/
theorem draft_valueEdit (r : Status) (hedit : s.panel.screen.isEditor) :
    (valueEdit symbol).DraftsAmong (s.panel.draftsAfter r symbol) a s := by
  have hnone : s.panel.opened r = none := by
    unfold Panel.opened
    cases hscreen : s.panel.screen <;> simp_all [Screen.isEditor]
  cases he : s.panel.edit with
  | none =>
    simp only [DraftsAmong, valueEdit_eq, leaves_bind, ensures_panel, Panel.draftsAfter]
    simp [he, hnone]
  | some e =>
    simp only [Panel.draftsAfter, he]
    split
    · next henter =>
      rw [henter, DraftsAmong, Leaves, Ensures, valueEdit_enter he]
      exact draft_acceptEdit e
    · next hother =>
      rw [DraftsAmong, (becomes_valueEdit he hother).leaves_iff]
      simp [Panel.draft]

/-- A key turns or accepts the value that is edited, or it may open an edit. -/
theorem draft_handle (h : s.panel.EditSession) (symbol : Symbol) :
    (handle s.panel.screen symbol).DraftsAmong
      (s.panel.draftsAfter (s.panel.reportAt a s.looks) symbol) a s := by
  by_cases heditor : s.panel.screen.isEditor = true
  · rw [handle_eq_valueEdit heditor]
    exact draft_valueEdit _ heditor
  · have hedit : s.panel.edit = none :=
      h.edit_eq_none (Panel.free_of_isEditor_eq_false (by simpa using heditor))
    have hopens {act : Act Unit} {draft : Option Edit × Settings} (hact : act.Drafts draft a s) :
        act.DraftsAmong [draft] a s := by
      simpa only [Drafts, DraftsAmong, List.mem_singleton] using hact
    have hkeeps {act : Act Unit} (hact : act.Drafts s.panel.draft a s) :
        act.DraftsAmong [(if symbol = .enter then none else none, s.panel.settings)] a s := by
      rw [ite_self, ← hedit]
      exact hopens hact
    have hlist {m : ListMenu} {enter : Act Unit} (henter : enter.Drafts s.panel.draft a s) :
        (listKey m enter symbol).DraftsAmong
          [(if symbol = .enter then none else none, s.panel.settings)] a s := by
      rw [Panel.draft, hedit] at henter
      exact hopens (drafts_listKey hedit henter)
    simp only [Panel.draftsAfter, hedit, Panel.opened]
    cases hscreen : s.panel.screen
    case mainMenu => exact hkeeps drafts_mainMenu
    case selectFile => exact hlist drafts_enterFiles
    case prepare => exact hopens (drafts_listKey hedit (drafts_enterPrepare hedit))
    case control => exact hlist drafts_enterControl
    case misc => exact hlist drafts_enterMisc
    case printProcess => exact hkeeps drafts_printProcess
    case axisMove => exact hopens (drafts_listKey hedit (drafts_enterAxes hedit))
    case temperature => exact hopens (drafts_listKey hedit (drafts_enterTemperature hedit))
    case motion => exact hlist drafts_enterMotion
    case info => exact hkeeps drafts_info
    case tune => exact hopens (drafts_listKey hedit (drafts_enterTune hedit))
    case plaPreheat | tpuPreheat =>
      exact hopens (drafts_listKey hedit (drafts_enterPreset hedit))
    case featureNotAvailable => exact hkeeps drafts_featureNotAvailable
    case homing =>
      have hstays : (pure () : Act Unit).Drafts s.panel.draft a s := ⟨rfl, rfl⟩
      exact hkeeps hstays
    case printWindow => exact hkeeps drafts_printWindow
    case tooCold => exact hkeeps drafts_tooCold
    case manualProbe => exact hkeeps drafts_manualProbe
    case messagePopup => exact hkeeps drafts_messagePopup
    case iconFinder => exact hkeeps drafts_iconFinder
    case maxSpeed | maxSpeedValue | maxAcceleration | maxAccelerationValue | maxJerk |
        maxJerkValue | step | stepValue =>
      exact hkeeps drafts_motionEditor
    all_goals exact absurd (by rw [hscreen]; rfl) heditor

end Act

/-! ### Whole operations -/

namespace Panel

variable {p q t : Panel}

/-- From one panel to the next, settings and report are the same, and an edit is the same or put
away. -/
structure Sheds (p q : Panel) : Prop where
  settings : q.settings = p.settings
  report : q.lastStatus = p.lastStatus
  edit : q.edit = none ∨ q.edit = p.edit

/-- A panel that stays as it is sheds nothing. -/
theorem Sheds.refl (p : Panel) : p.Sheds p := ⟨rfl, rfl, .inr rfl⟩

/-- An edit may be put away. -/
theorem Sheds.abandonEdit (h : p.Sheds q) : p.Sheds q.abandonEdit := by
  have hreport : q.abandonEdit.lastStatus = q.lastStatus := by rw [q.abandonEdit_eq]
  exact ⟨q.abandonEdit_settings.trans h.settings, hreport.trans h.report, .inl q.abandonEdit_edit⟩

/-- A demand of the printer puts an edit away. -/
theorem Sheds.forced (h : p.Sheds q) (d : Demand) : p.Sheds (q.forced d) :=
  ⟨h.abandonEdit.settings, h.abandonEdit.report, h.abandonEdit.edit⟩

/-- A message puts an edit away. -/
theorem Sheds.withMessage (h : p.Sheds q) (text : String) : p.Sheds (q.withMessage text) := by
  unfold Panel.withMessage
  split
  · exact h
  · exact ⟨h.abandonEdit.settings, h.abandonEdit.report, h.abandonEdit.edit⟩

/-- Following the job puts an edit away at most. -/
theorem Sheds.followingJob (h : p.Sheds q) (r : Status) : p.Sheds (q.followingJob r) := by
  have hnoted : p.Sheds { q with lastJob := r.job } := ⟨h.settings, h.report, h.edit⟩
  have hended : p.Sheds { q with lastJob := r.job, print := .fresh } :=
    ⟨h.settings, h.report, h.edit⟩
  have hstarted : p.Sheds
      { q with
        lastJob := r.job, print := .fresh, places := { q.places with print := .first } } :=
    ⟨h.settings, h.report, h.edit⟩
  unfold Panel.followingJob
  dsimp only
  split
  · exact hnoted
  · split
    · split
      · exact hnoted
      · exact hstarted.forced _
    · exact hnoted
    · exact hended.forced _
    · exact hended.forced _
    · exact hended.forced _
    · exact hnoted.withMessage _

/-- A change for a report puts an edit away at most. -/
theorem Sheds.change (h : p.Sheds q) {r : Status} {change : Panel → Panel}
    (hchange : change ∈ changesFor r) : p.Sheds (change q) := by
  simp only [changesFor, List.mem_cons, List.not_mem_nil, or_false] at hchange
  obtain rfl | rfl | rfl | rfl | rfl := hchange
  · exact h.followingJob r
  · have hprobing : p.Sheds { q with probe := .fresh } := ⟨h.settings, h.report, h.edit⟩
    unfold followingProbe
    split
    · exact h
    · exact hprobing.forced _
  · unfold followingPrint
    split <;> exact ⟨h.settings, h.report, h.edit⟩
  · unfold followingHoming
    split
    · exact h
    · split
      · split <;> exact ⟨h.settings, h.report, h.edit⟩
      · exact h
  · have hnoted : p.Sheds { q with lastMessage := r.message } := ⟨h.settings, h.report, h.edit⟩
    unfold followingMessage
    split
    · exact h
    · exact hnoted.withMessage _

variable {heard : Status → Prop} {drafts : List (Option Edit × Settings)}

/-- Edit and settings are among the given ones, unless the edit was put away. The last report is one
that may have been heard. -/
structure Drafted (heard : Status → Prop) (drafts : List (Option Edit × Settings)) (p : Panel) :
    Prop where
  draft : ∃ d ∈ drafts, p.settings = d.2 ∧ (p.edit = none ∨ p.edit = d.1)
  report : ∀ r, p.lastStatus = some r → heard r

/-- A draft that is among the given ones was not put away. -/
theorem drafted_of_mem (h : p.draft ∈ drafts) (hreport : ∀ r, p.lastStatus = some r → heard r) :
    p.Drafted heard drafts := ⟨⟨_, h, rfl, .inr rfl⟩, hreport⟩

/-- What is known of a draft still holds after the edit was put away. -/
theorem Drafted.sheds (h : p.Drafted heard drafts) (hq : p.Sheds q) : q.Drafted heard drafts := by
  obtain ⟨⟨d, hd, hsettings, hedit⟩, hreport⟩ := h
  refine ⟨⟨d, hd, hq.settings.trans hsettings, ?_⟩, hq.report ▸ hreport⟩
  obtain hnone | hsame := hq.edit
  · exact .inl hnone
  · rwa [hsame]

/-- Only keys change a draft, otherwise than by putting an edit away. -/
theorem persists_drafted (heard : Status → Prop) (drafts : List (Option Edit × Settings)) :
    PersistsHearing heard (Drafted heard drafts) where
  attends _ _ _ _ h _ := h.sheds ⟨rfl, rfl, .inr rfl⟩
  hears {_ r} hr h := ⟨h.draft, by rintro _ ⟨⟩; exact hr⟩
  warns {p} text h := h.sheds ((Sheds.refl p).withMessage text)
  follows {p} _ _ hchange h := h.sheds ((Sheds.refl p).change hchange)
  browses {p} h :=
    h.sheds ⟨p.abandonEdit_settings, (Sheds.refl p).abandonEdit.report, .inl p.abandonEdit_edit⟩

variable {op : Operation} {a : Answers}

/-- An operation leaves edit and settings as its key does, or puts the edit away. -/
theorem Reachable.drafted_perform (h : p.Reachable) (hop : op ≠ .start) (ha : a.Report heard)
    (hreport : ∀ r, p.lastStatus = some r → heard r) :
    (p.perform op a).panel.Drafted heard ((p.keyOf op).elim [p.draft] fun k =>
      p.draftsAfter (p.reportAt a 0) (p.symbolOf k)) := by
  refine (persists_drafted heard _).perform ha (absurd · hop) ?_ ?_
  · intro k hk s knob hs hlooks
    have hsession : s.panel.EditSession := by
      rw [hs]
      exact invariant_editSession.persists.awake h.editSession knob
    have hscreen : s.panel.screen = p.screen := by rw [hs]; rfl
    have hlast : s.panel.lastStatus = p.lastStatus := by rw [hs]; rfl
    have hdrafts : s.panel.draftsAfter (s.panel.reportAt a s.looks) (p.symbolOf k) =
        p.draftsAfter (p.reportAt a 0) (p.symbolOf k) := by
      rw [hs, hlooks]
      rfl
    have hhandle := Act.draft_handle (a := a) hsession (p.symbolOf k)
    rw [hdrafts, hscreen, Act.DraftsAmong, hlast] at hhandle
    rw [hk, Option.elim_some]
    exact hhandle.mono (fun _ _ ht => drafted_of_mem ht.1 (ht.2 ▸ hreport))
      fun _ _ ht => drafted_of_mem ht.1 (ht.2 ▸ hreport)
  · intro hk
    rw [hk, Option.elim_none]
    exact drafted_of_mem (List.mem_singleton_self _) hreport

/-- An operation makes of edit and settings what its key makes of them, unless the edit is put
away. -/
theorem Reachable.draft_perform (h : p.Reachable) (hop : op ≠ .start) :
    ∃ d ∈ (p.keyOf op).elim [p.draft] fun k => p.draftsAfter (p.reportAt a 0) (p.symbolOf k),
      (p.perform op a).panel.settings = d.2 ∧
        ((p.perform op a).panel.edit = none ∨ (p.perform op a).panel.edit = d.1) := by
  have hany : (p.perform op a).panel.Drafted (fun _ => True) _ :=
    h.drafted_perform hop (fun _ _ _ => trivial) fun _ _ => trivial
  exact hany.draft

end Panel

/-- An edit after keys that turn its value. -/
def Edit.after (e : Edit) (keys : List Key) : Edit :=
  keys.foldl (fun e k => e.turn (.ofKey k)) e

/-- Keys may be applied in two goes. -/
theorem Edit.after_append (e : Edit) (first second : List Key) :
    e.after (first ++ second) = (e.after first).after second :=
  List.foldl_append

namespace Panel

variable {p : Panel} {op : Operation} {a : Answers}

/-- Fast turning is fast while a value is edited. -/
theorem EditSession.symbolOf_eq (h : p.EditSession) {e : Edit} (he : p.edit = some e) (k : Key) :
    p.symbolOf k = .ofKey k := by
  simp [symbolOf, (h.opened e he).1]

/-- An edit that is open after an operation was opened by its click, or it was open before, and the
key was no click. -/
theorem Reachable.edit_cases (h : p.Reachable) (hop : op ≠ .start) {e : Edit}
    (he : (p.perform op a).panel.edit = some e) :
    (p.keyOf op = some .click ∧ p.edit = none ∧ p.opened (p.reportAt a 0) = some e) ∨
      ∃ first, p.edit = some first ∧ p.keyOf op ≠ some .click ∧
        e = first.after (p.keyOf op).toList := by
  obtain ⟨d, hd, -, hedit⟩ := h.draft_perform (a := a) hop
  have hd' : d.1 = some e := by
    obtain hnone | hsame := hedit
    · rw [hnone] at he
      contradiction
    · rw [← hsame, he]
  cases hk : p.keyOf op with
  | none =>
    rw [hk, Option.elim_none, List.mem_singleton] at hd
    rw [hd] at hd'
    exact .inr ⟨e, hd', by simp, rfl⟩
  | some k =>
    rw [hk, Option.elim_some, draftsAfter] at hd
    cases hopen : p.edit with
    | none =>
      rw [hopen] at hd
      rw [List.mem_singleton.mp hd] at hd'
      split at hd'
      · next henter => exact .inl ⟨by rw [symbolOf_eq_enter henter], rfl, hd'⟩
      · contradiction
    | some first =>
      rw [hopen] at hd
      dsimp only at hd
      split at hd
      · simp only [List.mem_cons, List.not_mem_nil, or_false] at hd
        obtain rfl | rfl := hd <;> contradiction
      · next hother =>
        rw [List.mem_singleton.mp hd, h.editSession.symbolOf_eq hopen] at hd'
        refine .inr ⟨first, rfl, ?_, (Option.some.inj hd').symm⟩
        rintro ⟨⟩
        exact hother p.symbolOf_click

/-- The settings stay as they are, unless a click accepts an edit that changes them. -/
theorem Reachable.settings_cases (h : p.Reachable) (hop : op ≠ .start) :
    (p.perform op a).panel.settings = p.settings ∨
      p.keyOf op = some .click ∧ ∃ e, p.edit = some e ∧ (p.perform op a).panel.edit = none ∧
        (p.perform op a).panel.settings = p.settings.accepting e.effect := by
  obtain ⟨d, hd, hsettings, hedit⟩ := h.draft_perform (a := a) hop
  rw [hsettings]
  cases hk : p.keyOf op with
  | none =>
    rw [hk, Option.elim_none, List.mem_singleton] at hd
    exact .inl (by rw [hd]; rfl)
  | some k =>
    rw [hk, Option.elim_some, draftsAfter] at hd
    cases hopen : p.edit with
    | none =>
      rw [hopen] at hd
      exact .inl (by rw [List.mem_singleton.mp hd])
    | some e =>
      rw [hopen] at hd
      dsimp only at hd
      split at hd
      · next henter =>
        simp only [List.mem_cons, List.not_mem_nil, or_false] at hd
        obtain rfl | rfl := hd
        · exact .inl rfl
        · exact .inr ⟨by rw [symbolOf_eq_enter henter], e, rfl, by simpa using hedit, rfl⟩
      · exact .inl (by rw [List.mem_singleton.mp hd])

end Panel

end PrinterPanel
