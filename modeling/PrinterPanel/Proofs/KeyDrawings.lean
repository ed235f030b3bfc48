import PrinterPanel.Proofs.PrintControls

/-!
# What a key draws

The handling of a key ends with one drawing at most: the screen that has come up, or the part of
the screen that the key has changed. It does not touch what was heard of the printer, nor what is
kept about the knob and the backlight.
-/

namespace PrinterPanel

open Display (Drawing)
open Menu

/-- What the handling of a key leaves alone. -/
structure Background where
  /-- The panel that is drawn on. -/
  canvas : Display.Canvas
  /-- The last job state. -/
  job : Job
  /-- The last report. -/
  report : Option Status
  /-- The last message of the printer. -/
  message : String
  /-- The knob. -/
  knob : Knob
  /-- Ticks since the last key. -/
  idleTicks : Nat
  /-- The backlight is dimmed. -/
  dimmed : Bool

namespace Panel

/-- The background of a panel. -/
def background (p : Panel) : Background :=
  ⟨p.canvas, p.lastJob, p.lastStatus, p.lastMessage, p.knob, p.idleTicks, p.dimmed⟩

/-- What a key draws, from the panel before it to the one after it. -/
inductive Draws (p q : Panel) : Drawing → Prop where
  /-- Nothing. -/
  | nothing (hstays : q.screen = p.screen) : Draws p q []
  /-- The screen that has come up, or the same one anew. -/
  | screen : Draws p q (q.picture q.screen)
  /-- The rows that a step of the cursor has changed. -/
  | scroll (m : ListMenu) (forwards : Bool) (s : Scroll) (hup : p.screen = m.screen)
    (hstep : ((p.places.get m).step forwards (p.entryCount m)).1 = some s)
    (hstays : q.screen = p.screen) : Draws p q (p.scrolled m s)
  /-- Two tiles of the main menu. -/
  | tiles (hup : p.screen = .mainMenu) (hstays : q.screen = p.screen) :
    Draws p q
      (p.canvas.tile p.places.page.position false p.settings.features.miscPage ++
        p.canvas.tile q.places.page.position true p.settings.features.miscPage)
  /-- Two buttons of the print screen. -/
  | buttons (hup : p.screen = .printProcess) (hstays : q.screen = p.screen) :
    Draws p q
      (p.canvas.printButton p.places.print.position false p.print.paused ++
        p.canvas.printButton q.places.print.position true p.print.paused)
  /-- The button to pause, after a print was resumed. -/
  | resumed (hup : p.screen = .printProcess) (hstays : q.screen = p.screen) :
    Draws p q (q.canvas.printButton 1 true false)
  /-- The answers to a question. -/
  | answers (confirm : Bool) (hup : p.screen = .printWindow) (hstays : q.screen = p.screen) :
    Draws p q (p.canvas.confirmOrCancel confirm)
  /-- Another pictogram. -/
  | icon (hup : p.screen = .iconFinder) (hstays : q.screen = p.screen) :
    Draws p q (q.canvas.iconPage q.shownIcon)
  /-- What changes while the bed is probed. -/
  | probe (hup : p.screen = .manualProbe) (hstays : q.screen = p.screen) :
    Draws p q (q.probePicture false)
  /-- The value of an edit that was opened or turned. -/
  | edited (e : Edit) (hedit : q.edit = some e) (hup : p.screen.showsStatus) :
    Draws p q (q.canvas.figure e.row ⟨e.field.decimals, e.value⟩ true)
  /-- The value of an edit that was accepted. -/
  | settled (e : Edit) (hedit : p.edit = some e) (hup : p.screen.showsStatus) :
    Draws p q (q.canvas.figure e.row ⟨e.field.decimals, e.value⟩ false)

/-- Where the screen stays, nothing need be drawn. -/
@[simp] theorem draws_nil {p q : Panel} (h : q.screen = p.screen) : p.Draws q [] := .nothing h

end Panel

namespace Act

variable {α β : Type} {a : Answers} {s : Scene} {p : Panel}

/-- A fault that leaves the background alone and cuts short what a key draws: a declined command or
a failed display call. -/
def CutsShort (p : Panel) (a : Answers) (s : Scene) (f : Fault) (t : Scene) : Prop :=
  t.panel.background = p.background ∧ ((∃ r, f = .refused r) ∨ FailedCall a f) ∧
    ∃ d shown, p.Draws t.panel d ∧ shown <+: d ∧
      drawnCalls t.events = drawnCalls s.events ++ shown ∧ s.displayCalls ≤ t.displayCalls

/-- The act draws what a key draws that was pressed on some panel, unless it ends early with a
declined command or a failed display call. Either way it leaves the background alone. -/
def Handles (act : Act α) (p : Panel) (a : Answers) (s : Scene) : Prop :=
  act.Ensures
    (fun _ t => t.panel.background = p.background ∧
      ∃ d, p.Draws t.panel d ∧ drawnCalls t.events = drawnCalls s.events ++ d ∧
        s.displayCalls ≤ t.displayCalls)
    (CutsShort p a s) a s

/-- A command does not change what is cut short. -/
@[simp] theorem cutsShort_afterCommand (c : Command) (accepted : Bool) :
    CutsShort p a (s.afterCommand c accepted) = CutsShort p a s := by
  funext f t
  simp only [CutsShort, Scene.drawnCalls_afterCommand]
  rfl

/-- A command that is declined ends the handling of a key before anything is drawn. -/
@[simp] theorem cutsShort_refused {c : Command} {r : Refusal} :
    CutsShort p a s (.refused r) (s.afterCommand c false) ↔
      s.panel.background = p.background := by
  constructor
  · exact fun h => h.1
  · intro h
    exact ⟨h, .inl ⟨r, rfl⟩, _, [], .screen, List.nil_prefix, by simp, Nat.le_refl _⟩

/-- What cuts short a drawing at a failed call leaves the calls before it. -/
theorem cutsShort_failed {d shown : Drawing} {f : Display.Failure} {q : Panel}
    (hkept : q.background = p.background) (hdraws : p.Draws q d) (hshown : shown <+: d)
    (hfailed : a.display (s.displayCalls + shown.length) = some f) :
    CutsShort p a s (.display f)
      (({ s with panel := q } : Scene).afterCalls shown (shown.length + 1)) := by
  refine ⟨hkept, .inr ⟨_, f, rfl, hfailed⟩, d, shown, hdraws, hshown, ?_, ?_⟩
  · exact Scene.drawnCalls_afterCalls { s with panel := q } shown _
  · simp only [Scene.afterCalls_displayCalls]
    omega

/-! ### One rule for each kind of step -/

/-- An act that does nothing draws nothing. -/
@[simp] theorem handles_pure (x : α) :
    (pure x : Act α).Handles p a s ↔
      s.panel.background = p.background ∧ p.Draws s.panel [] := by
  simp only [Handles, ensures_pure, List.self_eq_append_right, Nat.le_refl, and_true,
    exists_eq_right]

/-- A look at the panel draws nothing. -/
@[simp] theorem handles_panel_bind (next : Panel → Act β) :
    (panel >>= next).Handles p a s ↔ (next s.panel).Handles p a s :=
  ensures_panel_bind next

/-- A change of the panel draws nothing by itself. -/
@[simp] theorem handles_change_bind (f : Panel → Panel) (next : Unit → Act β) :
    (change f >>= next).Handles p a s ↔
      (next ()).Handles p a { s with panel := f s.panel } :=
  ensures_change_bind f next

/-- Listing the files draws nothing. -/
@[simp] theorem handles_listFiles_bind (next : Option (List String) → Act β) :
    (listFiles >>= next).Handles p a s ↔ (next a.files).Handles p a s :=
  ensures_listFiles_bind next

/-- Asking for a report draws nothing. -/
@[simp] theorem handles_report_bind (next : Status → Act β) :
    (report >>= next).Handles p a s ↔
      (next ((a.status s.looks).getD (s.panel.lastStatus.getD .atRest))).Handles p a
        { s with looks := s.looks + 1 } :=
  ensures_report_bind next

/-- A command that is declined ends the handling of a key, and otherwise the handling goes on. -/
@[simp] theorem handles_send_bind (c : Command) (next : Unit → Act β) :
    (send c >>= next).Handles p a s ↔
      (a.command s.commands = none → (next ()).Handles p a (s.afterCommand c true)) ∧
      ∀ r, a.command s.commands = some r → s.panel.background = p.background := by
  rw [Handles, ensures_send_bind]
  simp [Handles]

/-- A command draws nothing. -/
@[simp] theorem handles_send (c : Command) :
    (send c).Handles p a s ↔
      (a.command s.commands = none →
        s.panel.background = p.background ∧ p.Draws s.panel []) ∧
      ∀ r, a.command s.commands = some r → s.panel.background = p.background := by
  rw [Handles, ensures_send]
  simp

/-- A drawing may be what the key draws. -/
theorem handles_draw {d : Drawing} (hkept : s.panel.background = p.background)
    (hdraws : p.Draws s.panel d) : (draw d).Handles p a s := by
  apply ensures_draw
  · exact ⟨hkept, d, hdraws, s.drawnCalls_afterCalls d _, Nat.le_add_right _ _⟩
  · intro f shown hshown hfailed
    exact cutsShort_failed hkept hdraws hshown hfailed

/-- The background that an act leaves alone was there before a drawing. -/
theorem Handles.of_draw {d : Drawing} (h : (draw d).Handles p a s) :
    s.panel.background = p.background :=
  (leaves_draw (I := fun q => q.background = p.background) d).mp
    (h.mono (fun _ _ ht => ht.1) fun _ _ ht => ht.1)

/-- Going to a screen draws its picture. -/
@[simp] theorem handles_goTo {screen : Screen} :
    (goTo screen).Handles p a s ↔ s.panel.background = p.background := by
  simp only [goTo, handles_change_bind, handles_panel_bind]
  exact ⟨fun h => h.of_draw, fun h => handles_draw h .screen⟩

/-- An edit that begins draws its value. -/
@[simp] theorem handles_beginEdit {field : Field} {initial : Int} {returnTo : Screen} {row : Nat}
    (hup : p.screen.showsStatus) :
    (beginEdit field initial returnTo row).Handles p a s ↔
      s.panel.background = p.background := by
  simp only [beginEdit, handles_change_bind, handles_panel_bind]
  let e := Edit.start field initial s.panel.settings.limits returnTo row
  exact ⟨fun h => h.of_draw, fun h => handles_draw h (.edited e rfl hup)⟩

/-! ### The menus -/

section Menus

/-- Opening a page from the main menu draws the page. -/
theorem handles_openPage {page : Nat} : (openPage page).Handles s.panel a s := by
  unfold openPage
  split
  · simp [loadFiles, openList, bind_assoc, Panel.background]
  · simp [openList, Panel.background]
  · simp [openList, Panel.background]
  · rw [handles_panel_bind]
    split <;> simp [openList, Panel.background]

/-- The main menu draws two of its tiles, or the page that is opened. -/
theorem handles_mainMenu {symbol : Symbol} (hup : s.panel.screen = .mainMenu) :
    (mainMenu symbol).Handles s.panel a s := by
  simp only [mainMenu, handles_panel_bind]
  split
  · split
    · rw [handles_change_bind]
      exact handles_draw rfl (.tiles hup rfl)
    · simp
  · split
    · exact handles_openPage
    · simp

/-- A key on a list draws the rows that its step has changed, or what a press on it draws. -/
theorem handles_listKey {m : ListMenu} {enter : Act Unit} {symbol : Symbol}
    (hup : s.panel.screen = m.screen) (henter : enter.Handles s.panel a s) :
    (listKey m enter symbol).Handles s.panel a s := by
  unfold listKey
  split
  · simp only [turnList, handles_panel_bind, handles_change_bind]
    split
    · next hstep => exact handles_draw rfl (.scroll m _ _ hup hstep rfl)
    · simp [Panel.background]
  · split
    · exact henter
    · simp

/-- A press in the file browser draws the screen that it leads to. -/
theorem handles_enterFiles : enterFiles.Handles s.panel a s := by
  simp only [enterFiles, handles_panel_bind]
  split
  · simp only [handles_change_bind]
    split <;> simp [openList, backToMainMenu, Panel.background]
  · simp only [handles_change_bind]
    split <;> simp [openList, startPrint, Panel.background]

/-- A press on a list draws what its entry draws. -/
theorem handles_withEntry {α : Type} {m : ListMenu} {items : Features → List α}
    {act : α → Act Unit} (hact : ∀ item, (act item).Handles s.panel a s) :
    (withEntry m items act).Handles s.panel a s := by
  simp only [withEntry, handles_panel_bind]
  split
  · simp
  · exact hact _

/-- Heating for a material draws nothing. -/
theorem handles_preheat {m : Material} : (preheat m).Handles s.panel a s := by
  simp only [preheat, handles_panel_bind]
  split <;> simp

/-- A press in the prepare menu draws what its entry leads to. -/
theorem handles_enterPrepare (hup : s.panel.screen = .prepare) :
    enterPrepare.Handles s.panel a s := by
  apply handles_withEntry
  intro item
  cases item with
  | preheatPla => exact handles_preheat
  | preheatTpu => exact handles_preheat
  | back | move | disableSteppers | home | zOffset | cooldown =>
    simp [backToMainMenu, openList, Panel.background, hup, Screen.showsStatus]

/-- A press in the control menu draws the screen that it leads to. -/
theorem handles_enterControl : enterControl.Handles s.panel a s := by
  apply handles_withEntry
  intro item
  cases item <;> simp [backToMainMenu, openList, Panel.background]

/-- A press in the list of macros draws the screen that it leads to, or nothing. -/
theorem handles_enterMisc : enterMisc.Handles s.panel a s := by
  simp only [enterMisc, handles_panel_bind]
  split
  · simp [backToMainMenu, Panel.background]
  · split <;> simp

/-- The page about the machine draws the menu that it leads back to. -/
theorem handles_info {symbol : Symbol} : (info symbol).Handles s.panel a s := by
  unfold info
  split
  · rw [handles_panel_bind]
    split <;> simp [backToList, backToMainMenu, Panel.background]
  · simp

/-- A press in the motion menu draws the screen that it leads to. -/
theorem handles_enterMotion : enterMotion.Handles s.panel a s := by
  apply handles_withEntry
  intro item
  cases item <;> simp [backToList, notAvailable, Panel.background]

/-- A key in an editor of the motion limits draws the notice that it leads to. -/
theorem handles_motionEditor {symbol : Symbol} : (motionEditor symbol).Handles s.panel a s := by
  unfold motionEditor
  split <;> simp [notAvailable, Panel.background]

/-- A press in the menu for tuning draws the value of an edit, or the print screen. -/
theorem handles_enterTune (hup : s.panel.screen = .tune) : enterTune.Handles s.panel a s := by
  apply handles_withEntry
  intro item
  cases item <;> simp [Panel.background, hup, Screen.showsStatus]

/-- A press in the menu of the axes draws the position of an axis, or the screen that it leads
to. -/
theorem handles_enterAxes (hup : s.panel.screen = .axisMove) : enterAxes.Handles s.panel a s := by
  apply handles_withEntry
  intro item
  split
  · simp [backToList, Panel.background]
  · simp only [beginMove, handles_report_bind, handles_panel_bind]
    split
    · split <;> simp [hup, Screen.showsStatus]
    · simp [hup, Screen.showsStatus]

/-- A press in the temperature menu draws the value of an edit, or the screen that it leads to. -/
theorem handles_enterTemperature (hup : s.panel.screen = .temperature) :
    enterTemperature.Handles s.panel a s := by
  apply handles_withEntry
  intro item
  cases item <;> simp [backToList, openList, Panel.background, hup, Screen.showsStatus]

/-- A press in the menu of a preset draws the number of the preset, or the screen that it leads
to. -/
theorem handles_enterPreset {m : Material} (hup : s.panel.screen = (ListMenu.preset m).screen) :
    (enterPreset m).Handles s.panel a s := by
  have hshows : s.panel.screen.showsStatus = true := by
    rw [hup]
    cases m <;> rfl
  apply handles_withEntry
  intro item
  cases item <;> simp [backToList, Panel.background, hshows]

end Menus

/-! ### A print, popups, probing and edits -/

/-- A button of the print screen draws the screen that it leads to, or the button to pause. -/
theorem handles_pressPrintButton {button : Nat} (hup : s.panel.screen = .printProcess) :
    (pressPrintButton button).Handles s.panel a s := by
  unfold pressPrintButton
  split
  · simp [Panel.background]
  · rw [handles_panel_bind]
    split
    · refine (handles_send_bind _ _).mpr ⟨fun _ => ?_, fun _ _ => rfl⟩
      rw [handles_change_bind, handles_panel_bind]
      exact handles_draw rfl (.resumed hup rfl)
    · simp [ask, Panel.background]
  · simp [ask, Panel.background]

/-- The print screen draws two of its buttons, or what a press on one draws. -/
theorem handles_printProcess {symbol : Symbol} (hup : s.panel.screen = .printProcess) :
    (printProcess symbol).Handles s.panel a s := by
  simp only [printProcess, handles_panel_bind]
  split
  · split <;> simp [Panel.background]
  · split
    · split
      · rw [handles_change_bind]
        exact handles_draw rfl (.buttons hup rfl)
      · simp
    · split
      · exact handles_pressPrintButton hup
      · simp

/-- A question draws its answers, or the screen that the answer leads to. -/
theorem handles_printWindow {symbol : Symbol} (hup : s.panel.screen = .printWindow) :
    (printWindow symbol).Handles s.panel a s := by
  unfold printWindow
  split
  · simp only [turnAnswer, handles_panel_bind]
    split
    · rw [handles_change_bind]
      exact handles_draw rfl (.answers _ hup rfl)
    · simp
  · split
    · simp only [giveAnswer, handles_panel_bind, handles_change_bind]
      split <;> simp [Panel.background]
    · simp

/-- The notice that a function is missing draws the screen that it was put over. -/
theorem handles_featureNotAvailable {symbol : Symbol} :
    (featureNotAvailable symbol).Handles s.panel a s := by
  unfold featureNotAvailable
  split <;> simp [Panel.background]

/-- The warning of a cold hotend draws the menu that it leads back to. -/
theorem handles_tooCold {symbol : Symbol} : (tooCold symbol).Handles s.panel a s := by
  unfold tooCold
  split <;> simp

/-- A message popup draws the screen that it was put over. -/
theorem handles_messagePopup {symbol : Symbol} : (messagePopup symbol).Handles s.panel a s := by
  unfold messagePopup
  split <;> simp [Panel.background]

/-- The browser for pictograms draws another pictogram, or the main menu. -/
theorem handles_iconFinder {symbol : Symbol} (hup : s.panel.screen = .iconFinder) :
    (iconFinder symbol).Handles s.panel a s := by
  unfold iconFinder
  split
  · simp only [handles_panel_bind]
    split
    · rw [handles_change_bind, handles_panel_bind]
      exact handles_draw rfl (.icon hup rfl)
    · simp
  · split <;> simp

/-- Moving the nozzle draws what changes on the page for probing. -/
theorem handles_moveProbe {allowed : Bool} {um : Int} (hup : s.panel.screen = .manualProbe) :
    (moveProbe allowed um).Handles s.panel a s := by
  have hshow (t : Scene) (ht : t.panel = s.panel) : (do
      change fun p => { p with probe := { p.probe with outOfRange := !allowed } }
      draw ((← panel).probePicture false) : Act Unit).Handles s.panel a t := by
    rw [handles_change_bind, handles_panel_bind, ht]
    exact handles_draw rfl (.probe hup rfl)
  unfold moveProbe
  cases allowed with
  | true => exact (handles_send_bind _ _).mpr ⟨fun _ => hshow _ rfl, fun _ _ => rfl⟩
  | false => exact hshow s rfl

/-- Probing by hand draws what changes on its page. -/
theorem handles_manualProbe {symbol : Symbol} (hup : s.panel.screen = .manualProbe) :
    (manualProbe symbol).Handles s.panel a s := by
  simp only [manualProbe, handles_report_bind, handles_panel_bind]
  have hmove (allowed : Bool) (um : Int) :
      (moveProbe allowed um).Handles s.panel a { s with looks := s.looks + 1 } :=
    handles_moveProbe (s := { s with looks := s.looks + 1 }) hup
  cases symbol with
  | cw | fastCw | ccw | fastCcw => exact hmove _ _
  | enter =>
    rw [handles_change_bind, handles_panel_bind]
    exact handles_draw rfl (.probe hup rfl)
  | longEnter => simp [Panel.background]
  | idle => simp

/-- Accepting an edit draws its settled value. -/
theorem handles_acceptEdit {e : Edit} (hedit : s.panel.edit = some e)
    (hup : s.panel.screen.showsStatus) : (acceptEdit e).Handles s.panel a s := by
  simp only [acceptEdit, handles_change_bind, handles_panel_bind]
  rw [Handles, ensures_bind]
  apply ensures_draw
  · -- The value is shown before the command is sent, and a preset is stored without drawing.
    cases e.effect with
    | command c =>
      rw [takeEffect, ensures_send]
      refine ⟨fun _ => ⟨rfl, _, .settled e hedit hup, by simp, Nat.le_add_right _ _⟩,
        fun r _ => ?_⟩
      exact ⟨rfl, .inl ⟨r, rfl⟩, _, _, .settled e hedit hup, List.prefix_refl _, by simp,
        Nat.le_add_right _ _⟩
    | preset m field value =>
      exact ⟨rfl, _, .settled e hedit hup, by simp, Nat.le_add_right _ _⟩
  · intro f shown hshown hfailed
    exact cutsShort_failed (q := { s.panel with
        edit := none, screen := e.returnTo, rateLimited := true })
      rfl (.settled e hedit hup) hshown hfailed

/-- An open edit draws the value that it was turned to, or the settled one. -/
theorem handles_valueEdit {symbol : Symbol} (hup : s.panel.screen.showsStatus) :
    (valueEdit symbol).Handles s.panel a s := by
  simp only [valueEdit_eq, handles_panel_bind]
  split
  · simp
  · next e he =>
    split
    · exact handles_acceptEdit he hup
    · split
      · rw [handles_change_bind]
        have hturned : (e.turn symbol).row = e.row ∧ (e.turn symbol).field = e.field := by
          unfold Edit.turn Edit.apply
          split <;> exact ⟨rfl, rfl⟩
        rw [← hturned.1, ← hturned.2]
        exact handles_draw rfl (.edited _ rfl hup)
      · simp

/-- The handling of a key. -/
theorem handles_handle (symbol : Symbol) :
    (handle s.panel.screen symbol).Handles s.panel a s := by
  cases hup : s.panel.screen
  case mainMenu => exact handles_mainMenu hup
  case selectFile => exact handles_listKey hup handles_enterFiles
  case prepare => exact handles_listKey hup (handles_enterPrepare hup)
  case control => exact handles_listKey hup handles_enterControl
  case misc => exact handles_listKey hup handles_enterMisc
  case printProcess => exact handles_printProcess hup
  case axisMove => exact handles_listKey hup (handles_enterAxes hup)
  case temperature => exact handles_listKey hup (handles_enterTemperature hup)
  case motion => exact handles_listKey hup handles_enterMotion
  case info => exact handles_info
  case tune => exact handles_listKey hup (handles_enterTune hup)
  case plaPreheat => exact handles_listKey hup (handles_enterPreset (m := .pla) hup)
  case tpuPreheat => exact handles_listKey hup (handles_enterPreset (m := .tpu) hup)
  case featureNotAvailable => exact handles_featureNotAvailable
  case homing => exact (handles_pure ()).mpr ⟨rfl, .nothing rfl⟩
  case printWindow => exact handles_printWindow hup
  case tooCold => exact handles_tooCold
  case manualProbe => exact handles_manualProbe hup
  case messagePopup => exact handles_messagePopup
  case iconFinder => exact handles_iconFinder hup
  case maxSpeed | maxSpeedValue | maxAcceleration | maxAccelerationValue | maxJerk | maxJerkValue |
      step | stepValue =>
    exact handles_motionEditor
  all_goals exact handles_valueEdit (by rw [hup]; rfl)

end Act

end PrinterPanel
