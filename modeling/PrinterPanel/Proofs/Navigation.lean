import PrinterPanel.Proofs.Reachable

/-!
# Where keys lead

Each screen has a few others that a key leads to. Most keys leave alone what a popup will give way
to; the rest are the two that close a popup and the one that opens the notice that a function is
missing. So that notice always gives way to the motion menu, and probing by hand always begins
without a popup below it.
-/

namespace PrinterPanel

namespace Panel

/-- The screen that is up, and the one that a popup gives way to. -/
def showing (p : Panel) : Screen × Option Screen := (p.screen, p.popupCaller)

/-- What is shown is told by the screen and by what a popup gives way to. -/
@[simp] theorem showing_eq_iff {p : Panel} {screen : Screen} {caller : Option Screen} :
    p.showing = (screen, caller) ↔ p.screen = screen ∧ p.popupCaller = caller :=
  Prod.mk.injEq _ _ _ _ ▸ Iff.rfl

/-- To stay, or to go on to one of some screens without a change of what a popup gives way to. -/
def ways (p : Panel) (screens : List Screen) : List (Screen × Option Screen) :=
  p.showing :: screens.map fun s => (s, p.popupCaller)

/-- To have stayed or gone on is to have left alone what a popup gives way to. -/
@[simp] theorem showing_mem_ways {p q : Panel} {screens : List Screen} :
    q.showing ∈ p.ways screens ↔
      q.popupCaller = p.popupCaller ∧ (q.screen = p.screen ∨ q.screen ∈ screens) := by
  simp only [ways, showing, List.mem_cons, List.mem_map, Prod.mk.injEq]
  constructor
  · rintro (⟨hscreen, hcaller⟩ | ⟨screen, hmem, rfl, hcaller⟩)
    · exact ⟨hcaller, .inl hscreen⟩
    · exact ⟨hcaller.symm, .inr hmem⟩
  · rintro ⟨hcaller, hscreen | hmem⟩
    · exact .inl ⟨hscreen, hcaller⟩
    · exact .inr ⟨q.screen, hmem, rfl, hcaller.symm⟩

/-- What a key may lead to. -/
def exits (p : Panel) : List (Screen × Option Screen) :=
  match p.screen with
  | .mainMenu => p.ways [.selectFile, .prepare, .control, .misc, .info]
  | .selectFile => p.ways [.selectFile, .mainMenu, .printProcess]
  | .prepare => p.ways [.mainMenu, .axisMove, .homing, .zOffset]
  | .control => p.ways [.mainMenu, .temperature, .motion, .info]
  | .misc | .manualProbe | .iconFinder => p.ways [.mainMenu]
  | .printProcess => p.ways [.mainMenu, .tune, .printWindow]
  | .axisMove => p.ways [.prepare, .tooCold, .moveX, .moveY, .moveZ, .extruder]
  | .temperature => p.ways [.control, .plaPreheat, .tpuPreheat, .hotendTemp, .bedTemp, .fanSpeed]
  | .motion => (.featureNotAvailable, some .motion) :: p.ways [.control]
  | .info => p.ways [.control, .mainMenu]
  | .tune => p.ways [.printProcess, .printSpeed, .hotendTemp, .bedTemp, .fanSpeed, .zOffset]
  | .plaPreheat | .tpuPreheat => p.ways [.temperature, .hotendTemp, .bedTemp, .fanSpeed]
  | .maxSpeed | .maxSpeedValue | .maxAcceleration | .maxAccelerationValue | .maxJerk
  | .maxJerkValue | .step | .stepValue => (.featureNotAvailable, some .motion) :: p.ways []
  | .featureNotAvailable => (p.popupCaller.getD .mainMenu, none) :: p.ways []
  | .messagePopup => (Act.messageReturn p.popupCaller, none) :: p.ways []
  | .homing => p.ways []
  | .moveX | .moveY | .moveZ | .extruder | .hotendTemp | .zOffset | .bedTemp | .fanSpeed
  | .printSpeed => p.ways [(p.edit.map (·.returnTo)).getD .mainMenu]
  | .printWindow => p.ways [.printProcess, .mainMenu]
  | .tooCold => p.ways [.axisMove]

end Panel

namespace Act

variable {a : Answers} {s : Scene}

/-- The act ends on one of some screens. -/
def LeadsTo (act : Act Unit) (ways : List (Screen × Option Screen)) (a : Answers) (s : Scene) :
    Prop := act.Leaves (·.showing ∈ ways) a s

/-! ### The menus -/

section Menus

variable {ways : List (Screen × Option Screen)}

/-- A key on a list stays there, or leads where a press on the list does. -/
theorem leadsTo_listKey {m : ListMenu} {enter : Act Unit} {symbol : Symbol}
    (hstay : s.panel.showing ∈ ways) (henter : enter.LeadsTo ways a s) :
    (listKey m enter symbol).LeadsTo ways a s := by
  unfold listKey
  split
  · simp only [LeadsTo, turnList, leaves_bind, ensures_panel, ensures_change]
    split
    · exact (leaves_draw _).mpr hstay
    · exact hstay
  · split
    · exact henter
    · exact hstay

/-- A press on an entry of a list leads where that entry does. -/
theorem leadsTo_withEntry {α : Type} {m : ListMenu} {items : Features → List α}
    {act : α → Act Unit} (hstay : s.panel.showing ∈ ways)
    (hact : ∀ item, (act item).LeadsTo ways a s) : (withEntry m items act).LeadsTo ways a s := by
  simp only [LeadsTo, withEntry, leaves_bind, ensures_panel]
  split
  · exact hstay
  · exact hact _

/-- The main menu leads to the pages behind its tiles. -/
theorem leadsTo_mainMenu {symbol : Symbol} :
    (mainMenu symbol).LeadsTo
      (s.panel.ways [.selectFile, .prepare, .control, .misc, .info]) a s := by
  simp only [LeadsTo, mainMenu, leaves_bind, ensures_panel]
  split
  · split <;> simp
  · split
    · unfold openPage
      split
      · simp [loadFiles, openList, ListMenu.screen]
      · simp [openList, ListMenu.screen]
      · simp [openList, ListMenu.screen]
      · rw [leaves_bind, ensures_panel]
        split <;> simp [openList, ListMenu.screen]
    · simp

/-- A press in the file browser leads into a folder, to a print or to the main menu. -/
theorem leadsTo_enterFiles :
    enterFiles.LeadsTo (s.panel.ways [.selectFile, .mainMenu, .printProcess]) a s := by
  simp only [LeadsTo, enterFiles, leaves_bind, ensures_panel]
  split
  · simp only [leaves_bind, ensures_change]
    split <;> simp [openList, backToMainMenu, ListMenu.screen]
  · simp only [leaves_bind, ensures_change]
    split <;> simp [openList, startPrint, ListMenu.screen]

/-- A press in the prepare menu leads to the axes, to homing or to the Z offset, or back. -/
theorem leadsTo_enterPrepare :
    enterPrepare.LeadsTo (s.panel.ways [.mainMenu, .axisMove, .homing, .zOffset]) a s := by
  apply leadsTo_withEntry (by simp)
  intro item
  cases item with
  | preheatPla | preheatTpu => exact leaves_preheat (I := (·.showing ∈ _)) (by simp)
  | back | move | disableSteppers | home | zOffset | cooldown =>
    simp [LeadsTo, backToMainMenu, openList, beginEdit, ListMenu.screen, Field.screen]

/-- A press in the control menu leads to one of its three pages, or back. -/
theorem leadsTo_enterControl :
    enterControl.LeadsTo (s.panel.ways [.mainMenu, .temperature, .motion, .info]) a s := by
  apply leadsTo_withEntry (by simp)
  intro item
  cases item <;> simp [LeadsTo, backToMainMenu, openList, ListMenu.screen]

/-- A press in the list of macros leads to the main menu or nowhere. -/
theorem leadsTo_enterMisc : enterMisc.LeadsTo (s.panel.ways [.mainMenu]) a s := by
  simp only [LeadsTo, enterMisc, leaves_bind, ensures_panel]
  split
  · simp [backToMainMenu]
  · split <;> simp

/-- The page about the machine leads back to where it can be opened. -/
theorem leadsTo_info {symbol : Symbol} :
    (info symbol).LeadsTo (s.panel.ways [.control, .mainMenu]) a s := by
  unfold LeadsTo info
  split
  · rw [leaves_bind, ensures_panel]
    split <;> simp [backToList, backToMainMenu, ListMenu.screen]
  · simp

/-- A press in the motion menu leads to the notice that a function is missing, or back. -/
theorem leadsTo_enterMotion :
    enterMotion.LeadsTo ((.featureNotAvailable, some .motion) :: s.panel.ways [.control]) a s := by
  apply leadsTo_withEntry (by simp)
  intro item
  cases item <;> simp [LeadsTo, backToList, notAvailable, ListMenu.screen]

/-- A key in an editor of the motion limits leads to that notice. -/
theorem leadsTo_motionEditor {symbol : Symbol} :
    (motionEditor symbol).LeadsTo
      ((.featureNotAvailable, some .motion) :: s.panel.ways []) a s := by
  unfold LeadsTo motionEditor
  split <;> simp [notAvailable]

/-- A press in the tune menu leads to the fields that a print can be tuned by, or back. -/
theorem leadsTo_enterTune :
    enterTune.LeadsTo (s.panel.ways
      [.printProcess, .printSpeed, .hotendTemp, .bedTemp, .fanSpeed, .zOffset]) a s := by
  apply leadsTo_withEntry (by simp)
  intro item
  cases item <;> simp [LeadsTo, beginEdit, Field.screen]

/-- A press in the axis menu leads to an axis or to the warning of a cold hotend, or back. -/
theorem leadsTo_enterAxes :
    enterAxes.LeadsTo
      (s.panel.ways [.prepare, .tooCold, .moveX, .moveY, .moveZ, .extruder]) a s := by
  apply leadsTo_withEntry (by simp)
  intro item
  split
  · simp [LeadsTo, backToList, ListMenu.screen]
  · next axis _ =>
    simp only [LeadsTo, beginMove, leaves_bind, ensures_report, ensures_panel]
    split
    · split <;> simp [beginEdit, Field.screen]
    · next hother => cases axis <;> simp_all [beginEdit, Field.screen]

/-- A press in the temperature menu leads to a field or to a preset, or back. -/
theorem leadsTo_enterTemperature :
    enterTemperature.LeadsTo (s.panel.ways
      [.control, .plaPreheat, .tpuPreheat, .hotendTemp, .bedTemp, .fanSpeed]) a s := by
  apply leadsTo_withEntry (by simp)
  intro item
  cases item <;>
    simp [LeadsTo, backToList, openList, beginEdit, ListMenu.screen, Field.screen]

/-- A press in the menu of a preset leads to a field of the preset, or back. -/
theorem leadsTo_enterPreset {m : Material} :
    (enterPreset m).LeadsTo
      (s.panel.ways [.temperature, .hotendTemp, .bedTemp, .fanSpeed]) a s := by
  apply leadsTo_withEntry (by simp)
  intro item
  cases item <;> simp [LeadsTo, backToList, beginEdit, ListMenu.screen, Field.screen]

end Menus

/-! ### A print, popups, probing and edits -/

/-- The print screen leads to tuning or to a question, and to the main menu at the end. -/
theorem leadsTo_printProcess {symbol : Symbol} :
    (printProcess symbol).LeadsTo (s.panel.ways [.mainMenu, .tune, .printWindow]) a s := by
  simp only [LeadsTo, printProcess, leaves_bind, ensures_panel]
  split
  · split <;> simp
  · split
    · split <;> simp
    · split
      · unfold pressPrintButton
        split
        · simp
        · rw [leaves_bind, ensures_panel]
          split <;> simp [ask]
        · simp [ask]
      · simp

/-- A question leads back to the print, or to the main menu if the print is stopped. -/
theorem leadsTo_printWindow {symbol : Symbol} :
    (printWindow symbol).LeadsTo (s.panel.ways [.printProcess, .mainMenu]) a s := by
  unfold LeadsTo printWindow
  split
  · simp only [turnAnswer, leaves_bind, ensures_panel]
    split <;> simp
  · split
    · simp only [giveAnswer, leaves_bind, ensures_panel, ensures_change]
      split <;> simp
    · simp

/-- The notice that a function is missing gives way to what lies below it. -/
theorem leadsTo_featureNotAvailable {symbol : Symbol} :
    (featureNotAvailable symbol).LeadsTo
      ((s.panel.popupCaller.getD .mainMenu, none) :: s.panel.ways []) a s := by
  unfold LeadsTo featureNotAvailable
  split <;> simp

/-- The warning of a cold hotend leads back to the axes. -/
theorem leadsTo_tooCold {symbol : Symbol} :
    (tooCold symbol).LeadsTo (s.panel.ways [.axisMove]) a s := by
  unfold LeadsTo tooCold
  split <;> simp

/-- A message gives way to what lies below it. -/
theorem leadsTo_messagePopup {symbol : Symbol} :
    (messagePopup symbol).LeadsTo
      ((messageReturn s.panel.popupCaller, none) :: s.panel.ways []) a s := by
  unfold LeadsTo messagePopup
  split <;> simp

/-- The browser for pictograms leads to the main menu. -/
theorem leadsTo_iconFinder {symbol : Symbol} :
    (iconFinder symbol).LeadsTo (s.panel.ways [.mainMenu]) a s := by
  unfold LeadsTo iconFinder
  split
  · simp only [leaves_bind, ensures_panel]
    split <;> simp
  · split <;> simp

/-- Probing by hand leads to the main menu. -/
theorem leadsTo_manualProbe {symbol : Symbol} :
    (manualProbe symbol).LeadsTo (s.panel.ways [.mainMenu]) a s := by
  simp only [LeadsTo, manualProbe, leaves_bind, ensures_report, ensures_panel]
  have hmove (allowed : Bool) (um : Int) :
      (moveProbe allowed um).LeadsTo (s.panel.ways [.mainMenu]) a
        { s with looks := s.looks + 1 } := by
    unfold LeadsTo moveProbe
    cases allowed <;> simp
  cases symbol with
  | cw | fastCw | ccw | fastCcw => exact hmove _ _
  | enter | longEnter | idle => simp

/-- An edit leads back to the menu it was opened from. -/
theorem leadsTo_valueEdit {symbol : Symbol} :
    (valueEdit symbol).LeadsTo
      (s.panel.ways [(s.panel.edit.map (·.returnTo)).getD .mainMenu]) a s := by
  simp only [LeadsTo, valueEdit_eq, leaves_bind, ensures_panel]
  cases s.panel.edit with
  | none => simp
  | some e =>
    dsimp only
    split
    · rw [acceptEdit, leaves_bind, ensures_change, leaves_bind, ensures_panel]
      apply Leaves.bind
      · simp
      · intro _ t ht
        cases e.effect with
        | command c => exact (leaves_send c).mpr ht
        | preset m field value => exact ht
    · split <;> simp

/-- A key leads to one of the exits of the screen that is up. -/
theorem leadsTo_handle (symbol : Symbol) :
    (handle s.panel.screen symbol).LeadsTo s.panel.exits a s := by
  unfold Panel.exits
  cases s.panel.screen
  case mainMenu => exact leadsTo_mainMenu
  case selectFile => exact leadsTo_listKey (by simp) leadsTo_enterFiles
  case prepare => exact leadsTo_listKey (by simp) leadsTo_enterPrepare
  case control => exact leadsTo_listKey (by simp) leadsTo_enterControl
  case misc => exact leadsTo_listKey (by simp) leadsTo_enterMisc
  case printProcess => exact leadsTo_printProcess
  case axisMove => exact leadsTo_listKey (by simp) leadsTo_enterAxes
  case temperature => exact leadsTo_listKey (by simp) leadsTo_enterTemperature
  case motion => exact leadsTo_listKey (by simp) leadsTo_enterMotion
  case info => exact leadsTo_info
  case tune => exact leadsTo_listKey (by simp) leadsTo_enterTune
  case plaPreheat | tpuPreheat => exact leadsTo_listKey (by simp) leadsTo_enterPreset
  case featureNotAvailable => exact leadsTo_featureNotAvailable
  case homing => exact Panel.showing_mem_ways.mpr ⟨rfl, .inl rfl⟩
  case printWindow => exact leadsTo_printWindow
  case tooCold => exact leadsTo_tooCold
  case manualProbe => exact leadsTo_manualProbe
  case messagePopup => exact leadsTo_messagePopup
  case iconFinder => exact leadsTo_iconFinder
  case maxSpeed | maxSpeedValue | maxAcceleration | maxAccelerationValue | maxJerk | maxJerkValue |
      step | stepValue =>
    exact leadsTo_motionEditor
  all_goals exact leadsTo_valueEdit

end Act

/-! ### Where reports and messages lead -/

/-- A message gives way to the main menu or to a screen that accepts it. -/
theorem Act.messageReturn_ne {screen : Screen} (h : screen.acceptsReturn = false)
    (hmain : .mainMenu ≠ screen) {caller : Option Screen} : messageReturn caller ≠ screen := by
  unfold messageReturn
  split
  · split
    · next haccepts =>
      rintro rfl
      rw [h] at haccepts
      contradiction
    · exact hmain
  · exact hmain

namespace Panel

variable {p : Panel}

/-- An edit, or an editor without one, leads to a list or to the main menu. -/
theorem EditsInMenus.editReturn_ne (h : p.EditsInMenus) {screen : Screen}
    (hscreen : screen ∈ screensWithoutList) (hmain : screen ≠ .mainMenu) :
    screen ≠ (p.edit.map (·.returnTo)).getD .mainMenu := by
  cases hedit : p.edit with
  | none => exact hmain
  | some e => exact (h.returnTo_ne hscreen e hedit).symm

/-- A message without text changes nothing, and any other one comes up. -/
theorem withMessage_cases (p : Panel) (text : String) :
    p.withMessage text = p ∨ (p.withMessage text).screen = .messagePopup := by
  unfold withMessage
  split
  · exact .inl rfl
  · exact .inr rfl

/-- The user is left alone with the screen that is up. -/
structure LeftAlone (p q : Panel) : Prop where
  showing : q.showing = p.showing
  edit : q.edit = p.edit
  action : q.print.action = p.print.action
  places : q.places = p.places

/-- What does not change is left alone. -/
theorem LeftAlone.refl (p : Panel) : p.LeftAlone p := ⟨rfl, rfl, rfl, rfl⟩

/-- What is left alone on the way there is left alone on the way back. -/
theorem LeftAlone.symm {p q : Panel} (h : p.LeftAlone q) : q.LeftAlone p :=
  ⟨h.showing.symm, h.edit.symm, h.action.symm, h.places.symm⟩

/-- A user who is left alone stays on the screen. -/
theorem LeftAlone.screen {p q : Panel} (h : p.LeftAlone q) : q.screen = p.screen :=
  congrArg Prod.fst h.showing

/-- What a popup gives way to is left alone, too. -/
theorem LeftAlone.caller {p q : Panel} (h : p.LeftAlone q) : q.popupCaller = p.popupCaller :=
  congrArg Prod.snd h.showing

/-- What a change for a report may lead to: nothing new, a message, the prepare menu after homing,
or a forced screen. That is a menu if probing ends while an edit is open. -/
inductive Shift (p q : Panel) : Prop where
  | alone (h : p.LeftAlone q)
  | message (hup : q.screen = .messagePopup)
  | homed (hscreen : p.screen = .homing) (hup : q.screen = .prepare)
  | forced (hcaller : q.popupCaller = none)
    (hup : q.screen ∈ [.printProcess, .mainMenu, .manualProbe] ∨
      ∃ e, p.edit = some e ∧ q.screen = e.returnTo)

/-- A message that follows a change that leaves the user alone. -/
theorem LeftAlone.shift_withMessage {p q : Panel} (h : p.LeftAlone q) (text : String) :
    p.Shift (q.withMessage text) := by
  obtain hsame | hup := q.withMessage_cases text
  · rw [hsame]
    exact .alone h
  · exact .message hup

/-- A report shifts the screen if the job has begun or ended. -/
theorem shift_followingJob (p : Panel) (r : Status) : p.Shift (p.followingJob r) := by
  have hnoted : p.LeftAlone { p with lastJob := r.job } := ⟨rfl, rfl, rfl, rfl⟩
  have hended : p.Shift
      (({ p with lastJob := r.job, print := .fresh } : Panel).forced .jobEnded) :=
    .forced rfl (.inl (by simp [forced, Screen.after]))
  unfold followingJob
  dsimp only
  split
  · exact .alone hnoted
  · split
    · split
      · exact .alone hnoted
      · exact .forced rfl (.inl (by simp [printStarted, forced, Screen.after]))
    · exact .alone hnoted
    · exact hended
    · exact hended
    · exact hended
    · exact hnoted.shift_withMessage _

/-- A report shifts the screen if probing by hand has begun or ended. -/
theorem shift_followingProbe (p : Panel) (r : Status) : p.Shift (p.followingProbe r) := by
  unfold followingProbe
  split
  · exact .alone (.refl p)
  · next hother =>
    refine .forced rfl ?_
    cases hprobe : r.probe.isSome with
    | true => exact .inl (by simp [forced, Screen.after])
    | false =>
      have hscreen : p.screen = .manualProbe := by simpa [hprobe] using hother
      cases hedit : p.edit with
      | none => exact .inl (by simp [forced, abandonEdit, hscreen, Screen.after])
      | some e =>
        by_cases hreturn : e.returnTo = .manualProbe
        · exact .inl (by simp [forced, abandonEdit, hreturn, Screen.after])
        · exact .inr ⟨e, rfl, by simp [forced, abandonEdit, hreturn, Screen.after]⟩

/-- Keeping up with the print leaves the user alone. -/
theorem followingPrint_leftAlone (p : Panel) (r : Status) : p.LeftAlone (p.followingPrint r) := by
  unfold followingPrint PrintSession.following
  split
  · split <;> exact ⟨rfl, rfl, rfl, rfl⟩
  · exact .refl p

/-- A report shifts the screen if the axes are homed. -/
theorem shift_followingHoming (p : Panel) (r : Status) : p.Shift (p.followingHoming r) := by
  unfold followingHoming
  split
  · exact .alone (.refl p)
  · split
    · split
      · next hscreen => exact .homed hscreen rfl
      · exact .alone ⟨rfl, rfl, rfl, rfl⟩
    · exact .alone (.refl p)

/-- A report shifts the screen if it brings a message. -/
theorem shift_followingMessage (p : Panel) (r : Status) : p.Shift (p.followingMessage r) := by
  have hnoted : p.LeftAlone { p with lastMessage := r.message } := ⟨rfl, rfl, rfl, rfl⟩
  unfold followingMessage
  split
  · exact .alone (.refl p)
  · exact hnoted.shift_withMessage _

/-- Each of the changes for a report is a shift. -/
theorem shift_of_mem {r : Status} {change : Panel → Panel} (h : change ∈ changesFor r)
    (p : Panel) : p.Shift (change p) := by
  simp only [changesFor, List.mem_cons, List.not_mem_nil, or_false] at h
  obtain rfl | rfl | rfl | rfl | rfl := h
  · exact p.shift_followingJob r
  · exact p.shift_followingProbe r
  · exact .alone (p.followingPrint_leftAlone r)
  · exact p.shift_followingHoming r
  · exact p.shift_followingMessage r

/-- What a popup gives way to fits the screen that is up. -/
structure CallerFits (p : Panel) : Prop where
  edits : p.EditsInMenus
  notice : p.screen = .featureNotAvailable → p.popupCaller = some .motion
  probing : p.screen = .manualProbe → p.popupCaller = none

/-- What a popup may give way to survives everything that is no key. -/
theorem persists_callerFits : Persists CallerFits where
  attends _ _ _ _ h _ := ⟨h.edits, h.notice, h.probing⟩
  hears _ h := ⟨h.edits, h.notice, h.probing⟩
  warns {p} text h := by
    have hedits : (p.withMessage text).EditsInMenus :=
      invariant_editsInMenus.withMessage text h.edits
    obtain hsame | hshown := p.withMessage_cases text
    · rwa [hsame]
    · exact ⟨hedits, by simp [hshown], by simp [hshown]⟩
  follows {p r change} hchange h := by
    have hedits : (change p).EditsInMenus := invariant_editsInMenus.change hchange h.edits
    obtain hsame | hshown | ⟨-, hshown⟩ | ⟨hcaller, hforced⟩ := shift_of_mem hchange p
    · refine ⟨hedits, ?_, ?_⟩ <;> rw [hsame.screen, hsame.caller]
      · exact h.notice
      · exact h.probing
    · exact ⟨hedits, by simp [hshown], by simp [hshown]⟩
    · exact ⟨hedits, by simp [hshown], by simp [hshown]⟩
    · refine ⟨hedits, fun hnotice => ?_, fun _ => hcaller⟩
      obtain hscreen | ⟨e, he, hscreen⟩ := hforced
      · simp [hnotice] at hscreen
      · exact absurd (hscreen.symm.trans hnotice) (h.edits.returnTo_ne (by decide) e he)
  browses {p} h := by
    have hedits := invariant_editsInMenus.persists.browses h.edits
    exact ⟨hedits, by simp, by simp⟩

/-- The exits of a screen fit if the screen does. -/
theorem CallerFits.of_exits (h : p.CallerFits) {q : Panel} (hedits : q.EditsInMenus)
    (hq : q.showing ∈ p.exits) : q.CallerFits := by
  have hways {screens : List Screen} (hnotice : .featureNotAvailable ∉ screens)
      (hprobing : .manualProbe ∉ screens) (hq : q.showing ∈ p.ways screens) : q.CallerFits := by
    obtain ⟨hcaller, hscreen | hscreen⟩ := showing_mem_ways.mp hq
    · exact ⟨hedits, by rw [hscreen, hcaller]; exact h.notice,
        by rw [hscreen, hcaller]; exact h.probing⟩
    · exact ⟨hedits, fun hq => absurd (hq ▸ hscreen) hnotice,
        fun hq => absurd (hq ▸ hscreen) hprobing⟩
  have hopens {screens : List Screen} (hnotice : .featureNotAvailable ∉ screens)
      (hprobing : .manualProbe ∉ screens)
      (hq : q.showing ∈ (.featureNotAvailable, some .motion) :: p.ways screens) :
      q.CallerFits := by
    obtain hq | hq := List.mem_cons.mp hq
    · obtain ⟨hscreen, hcaller⟩ := showing_eq_iff.mp hq
      exact ⟨hedits, fun _ => hcaller, by simp [hscreen]⟩
    · exact hways hnotice hprobing hq
  have hcloses {screen : Screen} (hother : screen ≠ .featureNotAvailable)
      (hq : q.showing ∈ (screen, none) :: p.ways []) : q.CallerFits := by
    obtain hq | hq := List.mem_cons.mp hq
    · obtain ⟨hscreen, hcaller⟩ := showing_eq_iff.mp hq
      exact ⟨hedits, fun hq => absurd (hscreen.symm.trans hq) hother, fun _ => hcaller⟩
    · exact hways (by simp) (by simp) hq
  unfold exits at hq
  cases hscreen : p.screen <;> simp only [hscreen] at hq
  case motion => exact hopens (by decide) (by decide) hq
  case maxSpeed | maxSpeedValue | maxAcceleration | maxAccelerationValue | maxJerk | maxJerkValue |
      step | stepValue =>
    exact hopens (by decide) (by decide) hq
  case featureNotAvailable =>
    exact hcloses (by simp [h.notice hscreen]) hq
  case messagePopup => exact hcloses (Act.messageReturn_ne rfl (by decide)) hq
  case moveX | moveY | moveZ | extruder | hotendTemp | zOffset | bedTemp | fanSpeed | printSpeed =>
    exact hways (by simpa using h.edits.editReturn_ne (by decide) (by decide))
      (by simpa using h.edits.editReturn_ne (by decide) (by decide)) hq
  all_goals exact hways (by decide) (by decide) hq

/-- A question, homing and probing are not returned to: apart from staying there, a key leads to the
question from the print screen only, to homing from the prepare menu only, and to probing not at
all. -/
theorem CallerFits.cases_of_exits (h : p.CallerFits) {q : Panel} (hq : q.showing ∈ p.exits)
    (hup : q.screen ∈ [.printWindow, .homing, .manualProbe]) :
    p.screen = q.screen ∨ p.screen = .printProcess ∧ q.screen = .printWindow ∨
      p.screen = .prepare ∧ q.screen = .homing := by
  have hcaller : p.screen = .featureNotAvailable → p.popupCaller = some .motion := h.notice
  simp only [List.mem_cons, List.not_mem_nil, or_false] at hup
  unfold exits at hq
  obtain hup | hup | hup := hup
  all_goals
    have hmessage : q.screen ≠ Act.messageReturn p.popupCaller := by
      rw [hup]
      exact (Act.messageReturn_ne rfl (by decide)).symm
    have hedit : q.screen ≠ (p.edit.map (·.returnTo)).getD .mainMenu := by
      rw [hup]
      exact h.edits.editReturn_ne (by decide) (by decide)
    rw [hup] at hmessage hedit ⊢
    cases hscreen : p.screen <;> simp [hscreen, hup, hmessage, hedit, hcaller] at hq ⊢

/-- The question of the print screen is asked on the print screen only. -/
theorem CallerFits.screen_of_exits (h : p.CallerFits) {q : Panel} (hq : q.showing ∈ p.exits)
    (hwindow : q.screen = .printWindow) : p.screen = .printWindow ∨ p.screen = .printProcess := by
  have hcases := h.cases_of_exits hq (by simp [hwindow])
  simpa [hwindow] using hcases

end Panel

namespace Act

variable {a : Answers} {s : Scene}

/-- What a popup may give way to survives a key on any screen. -/
theorem callerFits_handle (h : s.panel.CallerFits) (symbol : Symbol) :
    (handle s.panel.screen symbol).Leaves Panel.CallerFits a s := by
  have hedits := leaves_handle (a := a) (s := s) Panel.invariant_editsInMenus h.edits symbol
  apply (hedits.and (leadsTo_handle symbol)).mono
  · exact fun _ _ ht => h.of_exits ht.1 ht.2
  · exact fun _ _ ht => h.of_exits ht.1 ht.2

end Act

/-- A panel that is switched on has no popup. -/
theorem Panel.callerFits_ofSettings (s : Settings) (width height : Nat) :
    (Panel.ofSettings s width height).CallerFits :=
  ⟨by simp [EditsInMenus, ofSettings], by simp [ofSettings], by simp [ofSettings]⟩

/-- A popup always gives way to a screen that it may have come up over. -/
theorem Panel.Reachable.callerFits {p : Panel} (h : p.Reachable) : p.CallerFits := by
  induction h with
  | started s width height a =>
    have hnew := Panel.callerFits_ofSettings s width height
    exact persists_callerFits.perform (fun _ => hnew) (by simp [keyOf]) fun _ => hnew
  | operated a _ hop ih =>
    have hhandle (s : Scene) (symbol : Symbol) (hs : s.panel.CallerFits) :
        (Act.handle s.panel.screen symbol).Leaves CallerFits a s :=
      Act.callerFits_handle hs symbol
    exact persists_callerFits.perform_of_handle hhandle (absurd · hop) ih

end PrinterPanel
