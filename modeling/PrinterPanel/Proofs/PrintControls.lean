import PrinterPanel.Proofs.EditSession
import PrinterPanel.Proofs.Positions
import PrinterPanel.Proofs.PrintButtons
import PrinterPanel.Proofs.Recovery

/-!
# The print screen and its cursor

The print screen shows its controls if they are as they would be if it were drawn anew, for the
button that the cursor is on and for what the panel keeps about the print. A key keeps this: it
draws the buttons that it changes, or it leads to another screen, or back by drawing all of it.
-/

namespace PrinterPanel

open Display (Drawing Alike replay)

/-- The calls that the display took. -/
def drawnCalls (events : List Event) : Drawing :=
  events.filterMap fun
    | .drawn call => some call
    | .sent _ _ => none

/-- Without events nothing is drawn. -/
@[simp] theorem drawnCalls_nil : drawnCalls [] = [] := rfl

/-- The drawings of two lists of events come one after the other. -/
@[simp] theorem drawnCalls_append (first second : List Event) :
    drawnCalls (first ++ second) = drawnCalls first ++ drawnCalls second :=
  List.filterMap_append

/-- The events of a drawing are its calls. -/
@[simp] theorem drawnCalls_drawn (d : Drawing) : drawnCalls (d.map .drawn) = d := by
  induction d with
  | nil => rfl
  | cons c rest ih => exact congrArg (c :: ·) ih

/-- A command is no drawing. -/
@[simp] theorem drawnCalls_sent (c : Command) (accepted : Bool) :
    drawnCalls [.sent c accepted] = [] := rfl

namespace Panel

/-- The controls of the print screen. -/
def printControls (p : Panel) : Drawing :=
  p.canvas.controls p.places.print.position p.print.paused p.print.completionShown

/-- The print screen, if it is up, shows its controls. -/
def ShowsControls (p : Panel) (shown : Drawing) : Prop :=
  p.screen = .printProcess → Alike p.canvas.controlArea shown p.printControls

/-- Before the print is finished, the controls are the buttons. -/
theorem showsControls_iff_of_open {p : Panel} {shown : Drawing}
    (h : p.print.completionShown = false) :
    p.ShowsControls shown ↔ (p.screen = .printProcess → Alike p.canvas.controlArea shown
      (p.canvas.printButtons p.places.print.position p.print.paused)) := by
  rw [ShowsControls, printControls, Display.Canvas.controls, h]
  rfl

/-- Drawn anew over anything, the print screen shows its controls. -/
theorem alike_picture (p : Panel) (shown : Drawing) :
    Alike p.canvas.controlArea (replay shown (p.picture .printProcess)) p.printControls := by
  have hstatus (d : Drawing) : Alike p.canvas.controlArea (replay d p.statusPicture) d := by
    unfold statusPicture
    split
    · exact Alike.refl _ d
    · exact Display.alike_replay (Display.Canvas.avoids_statusArea _) d
  have hpicture : p.picture .printProcess = p.printPicture ++ p.statusPicture := rfl
  rw [hpicture, Display.replay_append]
  refine (hstatus _).trans ?_
  rw [printPicture, Display.replay_append, printControls, Display.Canvas.controls]
  split
  · exact Display.Canvas.alike_printFinished _
  · exact (Display.alike_replay (Display.Canvas.avoids_progress _) _).trans
      (Display.Canvas.alike_printScreen _ _ _ shown)

end Panel

/-- The print screen, if it is up, shows its controls after the calls made so far. -/
def Scene.Faithful (s : Scene) (shown : Drawing) : Prop :=
  s.panel.ShowsControls (replay shown (drawnCalls s.events))

/-- Without the print screen there is nothing to show. -/
theorem Scene.faithful_of_ne {s : Scene} {shown : Drawing} (h : s.panel.screen ≠ .printProcess) :
    s.Faithful shown :=
  fun hscreen => absurd hscreen h

/-- Calls to the display are drawn behind those before. -/
@[simp] theorem Scene.drawnCalls_afterCalls (s : Scene) (d : Drawing) (calls : Nat) :
    drawnCalls (s.afterCalls d calls).events = drawnCalls s.events ++ d := by
  simp [Scene.afterCalls]

/-- Nothing is drawn by a command. -/
@[simp] theorem Scene.drawnCalls_afterCommand (s : Scene) (c : Command) (accepted : Bool) :
    drawnCalls (s.afterCommand c accepted).events = drawnCalls s.events := by
  simp [Scene.afterCommand]

/-- A command leaves the controls as they are shown. -/
@[simp] theorem Scene.faithful_afterCommand {s : Scene} {shown : Drawing} (c : Command)
    (accepted : Bool) : (s.afterCommand c accepted).Faithful shown ↔ s.Faithful shown := by
  simp [Scene.Faithful]

namespace Act

variable {α β : Type} {a : Answers} {s t : Scene} {shown : Drawing}

/-- The act ends with a print screen that shows its controls, if it ends there, or else with a
declined command. -/
def Paints (act : Act α) (shown : Drawing) (a : Answers) (s : Scene) : Prop :=
  act.Ensures (fun _ t => t.Faithful shown) (fun f _ => ∃ r, f = .refused r) a s

/-! ### One rule for each kind of step -/

/-- A result that is given leaves the controls as they are shown. -/
@[simp] theorem paints_pure (x : α) :
    (pure x : Act α).Paints shown a s ↔ s.Faithful shown := Iff.rfl

/-- To look at the panel first leaves the controls as they are shown. -/
@[simp] theorem paints_panel_bind (next : Panel → Act β) :
    (panel >>= next).Paints shown a s ↔ (next s.panel).Paints shown a s :=
  ensures_panel_bind next

/-- After a change of the panel, the rest has to show the controls of the new one. -/
@[simp] theorem paints_change_bind (f : Panel → Panel) (next : Unit → Act β) :
    (change f >>= next).Paints shown a s ↔
      (next ()).Paints shown a { s with panel := f s.panel } :=
  ensures_change_bind f next

/-- To look at the files first leaves the controls as they are shown. -/
@[simp] theorem paints_listFiles_bind (next : Option (List String) → Act β) :
    (listFiles >>= next).Paints shown a s ↔ (next a.files).Paints shown a s :=
  ensures_listFiles_bind next

/-- To ask for a report first leaves the controls as they are shown. -/
@[simp] theorem paints_report_bind (next : Status → Act β) :
    (report >>= next).Paints shown a s ↔
      (next ((a.status s.looks).getD (s.panel.lastStatus.getD .atRest))).Paints shown a
        { s with looks := s.looks + 1 } :=
  ensures_report_bind next

/-- A command that is declined ends the act, and the rest follows one that is taken. -/
@[simp] theorem paints_send_bind (c : Command) (next : Unit → Act β) :
    (send c >>= next).Paints shown a s ↔
      (a.command s.commands = none → (next ()).Paints shown a (s.afterCommand c true)) := by
  rw [Paints, ensures_send_bind]
  exact and_iff_left fun r _ => ⟨r, rfl⟩

/-- A command shows the controls right if they are and the printer takes it. -/
@[simp] theorem paints_send (c : Command) :
    (send c).Paints shown a s ↔ (a.command s.commands = none → s.Faithful shown) := by
  rw [Paints, ensures_send]
  simp

/-! ### Steps that draw -/

section Drawing

variable (h : ∀ n, a.display n = none)
include h

/-- A drawing shows the controls right if they are in what it leaves on the display. -/
theorem paints_draw (d : Drawing) :
    (draw d).Paints shown a s ↔
      s.panel.ShowsControls (replay (replay shown (drawnCalls s.events)) d) := by
  rw [Paints, ensures_draw_iff h]
  simp [Scene.Faithful, Scene.afterCalls]

/-- A screen that is drawn anew shows its controls. -/
theorem paints_goTo (screen : Screen) : (goTo screen).Paints shown a s := by
  simp only [goTo, paints_change_bind, paints_panel_bind]
  rw [paints_draw h]
  rintro rfl
  exact Panel.alike_picture _ _

/-- Beginning an edit leaves the print screen. -/
theorem paints_beginEdit (field : Field) (initial : Int) (returnTo : Screen) (row : Nat) :
    (beginEdit field initial returnTo row).Paints shown a s := by
  simp only [beginEdit, paints_change_bind, paints_panel_bind]
  rw [paints_draw h]
  intro hscreen
  have heditor := field.isEditor_screen
  rw [show field.screen = .printProcess from hscreen] at heditor
  contradiction

end Drawing

/-! ### Handling a key on another screen -/

section Menus

variable (h : ∀ n, a.display n = none) (hs : s.panel.screen ≠ .printProcess)
include h

/-- Opening a page from the main menu paints the controls right if it ends on the print screen. -/
theorem paints_openPage {page : Nat} : (openPage page).Paints shown a s := by
  unfold openPage
  split
  · simp [loadFiles, openList, bind_assoc, paints_goTo h]
  · simp [openList, paints_goTo h]
  · simp [openList, paints_goTo h]
  · rw [paints_panel_bind]
    split <;> simp [openList, paints_goTo h]

include hs

/-- A key in the main menu paints the controls right if it ends on the print screen. -/
theorem paints_mainMenu {symbol : Symbol} : (mainMenu symbol).Paints shown a s := by
  simp only [mainMenu, paints_panel_bind]
  split
  · split
    · simp [paints_draw h, Panel.ShowsControls, hs]
    · exact Scene.faithful_of_ne hs
  · split
    · exact paints_openPage h
    · exact Scene.faithful_of_ne hs

/-- A key on a list paints the controls right if a press does. -/
theorem paints_listKey {m : ListMenu} {enter : Act Unit} {symbol : Symbol}
    (henter : enter.Paints shown a s) : (listKey m enter symbol).Paints shown a s := by
  unfold listKey
  split
  · simp only [turnList, paints_panel_bind, paints_change_bind]
    split
    · simp [paints_draw h, Panel.ShowsControls, hs]
    · exact Scene.faithful_of_ne hs
  · split
    · exact henter
    · exact Scene.faithful_of_ne hs

/-- A press in the file browser paints the controls right if it ends on the print screen. -/
theorem paints_enterFiles : enterFiles.Paints shown a s := by
  simp only [enterFiles, paints_panel_bind]
  split
  · simp only [paints_change_bind]
    split <;> simp [openList, backToMainMenu, paints_goTo h]
  · simp only [paints_change_bind]
    split
    · exact Scene.faithful_of_ne hs
    · simp [openList, paints_goTo h]
    · simp [startPrint, paints_goTo h]

omit h in
/-- A press on an entry of a list paints the controls right if each entry does. -/
theorem paints_withEntry {α : Type} {m : ListMenu} {items : Features → List α}
    {act : α → Act Unit} (hact : ∀ item, (act item).Paints shown a s) :
    (withEntry m items act).Paints shown a s := by
  simp only [withEntry, paints_panel_bind]
  split
  · exact Scene.faithful_of_ne hs
  · exact hact _

omit h in
/-- Heating for a material paints the controls right if it ends on the print screen. -/
theorem paints_preheat {m : Material} : (preheat m).Paints shown a s := by
  simp only [preheat, paints_panel_bind]
  split <;> simp [Scene.faithful_of_ne, hs]

/-- A press in the prepare menu paints the controls right if it ends on the print screen. -/
theorem paints_enterPrepare : enterPrepare.Paints shown a s := by
  apply paints_withEntry hs
  intro item
  cases item with
  | preheatPla => exact paints_preheat hs
  | preheatTpu => exact paints_preheat hs
  | back | move | disableSteppers | home | zOffset | cooldown =>
    simp [backToMainMenu, openList, paints_goTo h, paints_beginEdit h, Scene.faithful_of_ne, hs]

/-- A press in the control menu paints the controls right if it ends on the print screen. -/
theorem paints_enterControl : enterControl.Paints shown a s := by
  apply paints_withEntry hs
  intro item
  cases item <;> simp [backToMainMenu, openList, paints_goTo h]

/-- A press in the list of macros paints the controls right if it ends on the print screen. -/
theorem paints_enterMisc : enterMisc.Paints shown a s := by
  simp only [enterMisc, paints_panel_bind]
  split
  · simp [backToMainMenu, paints_goTo h]
  · split
    · exact Scene.faithful_of_ne hs
    · simp [Scene.faithful_of_ne, hs]

/-- A key on the page about the machine paints the controls right if it ends on the print screen. -/
theorem paints_info {symbol : Symbol} : (info symbol).Paints shown a s := by
  unfold info
  split
  · rw [paints_panel_bind]
    split <;> simp [backToList, backToMainMenu, paints_goTo h]
  · exact Scene.faithful_of_ne hs

/-- A press in the motion menu paints the controls right if it ends on the print screen. -/
theorem paints_enterMotion : enterMotion.Paints shown a s := by
  apply paints_withEntry hs
  intro item
  cases item <;> simp [backToList, notAvailable, paints_goTo h]

/-- A key in an editor of the motion limits paints the controls right if it ends on the print
screen. -/
theorem paints_motionEditor {symbol : Symbol} : (motionEditor symbol).Paints shown a s := by
  unfold motionEditor
  split
  · simp [notAvailable, paints_goTo h]
  · exact Scene.faithful_of_ne hs

/-- A press in the tune menu paints the controls right if it ends on the print screen. -/
theorem paints_enterTune : enterTune.Paints shown a s := by
  apply paints_withEntry hs
  intro item
  cases item <;> simp [paints_goTo h, paints_beginEdit h]

/-- A press in the axis menu paints the controls right if it ends on the print screen. -/
theorem paints_enterAxes : enterAxes.Paints shown a s := by
  apply paints_withEntry hs
  intro item
  split
  · simp [backToList, paints_goTo h]
  · simp only [beginMove, paints_report_bind, paints_panel_bind]
    split
    · split <;> simp [paints_goTo h, paints_beginEdit h]
    · simp [paints_beginEdit h]

/-- A press in the temperature menu paints the controls right if it ends on the print screen. -/
theorem paints_enterTemperature : enterTemperature.Paints shown a s := by
  apply paints_withEntry hs
  intro item
  cases item <;> simp [backToList, openList, paints_goTo h, paints_beginEdit h]

/-- A press in the menu of a preset paints the controls right if it ends on the print screen. -/
theorem paints_enterPreset {m : Material} : (enterPreset m).Paints shown a s := by
  apply paints_withEntry hs
  intro item
  cases item <;>
    simp [backToList, paints_goTo h, paints_beginEdit h, Scene.faithful_of_ne, hs]

/-- A key on a question paints the controls right if it ends on the print screen. -/
theorem paints_printWindow {symbol : Symbol} : (printWindow symbol).Paints shown a s := by
  unfold printWindow
  split
  · simp only [turnAnswer, paints_panel_bind]
    split
    · simp [paints_draw h, Panel.ShowsControls, hs]
    · exact Scene.faithful_of_ne hs
  · split
    · simp only [giveAnswer, paints_panel_bind, paints_change_bind]
      split <;> simp [paints_goTo h]
    · exact Scene.faithful_of_ne hs

/-- A key on the notice that a function is missing paints the controls right if it ends on the print
screen. -/
theorem paints_featureNotAvailable {symbol : Symbol} :
    (featureNotAvailable symbol).Paints shown a s := by
  unfold featureNotAvailable
  split
  · simp [paints_goTo h]
  · exact Scene.faithful_of_ne hs

/-- A key on the warning of a cold hotend paints the controls right if it ends on the print
screen. -/
theorem paints_tooCold {symbol : Symbol} : (tooCold symbol).Paints shown a s := by
  unfold tooCold
  split
  · exact paints_goTo h _
  · exact Scene.faithful_of_ne hs

/-- A key on a message paints the controls right if it ends on the print screen. -/
theorem paints_messagePopup {symbol : Symbol} : (messagePopup symbol).Paints shown a s := by
  unfold messagePopup
  split
  · simp [paints_goTo h]
  · exact Scene.faithful_of_ne hs

/-- A key in the browser for pictograms paints the controls right if it ends on the print screen. -/
theorem paints_iconFinder {symbol : Symbol} : (iconFinder symbol).Paints shown a s := by
  unfold iconFinder
  split
  · simp only [paints_panel_bind]
    split
    · simp [paints_draw h, Panel.ShowsControls, hs]
    · exact Scene.faithful_of_ne hs
  · split
    · exact paints_goTo h _
    · exact Scene.faithful_of_ne hs

/-- A step of the nozzle paints the controls right if it ends on the print screen. -/
theorem paints_moveProbe {allowed : Bool} {um : Int} :
    (moveProbe allowed um).Paints shown a s := by
  unfold moveProbe
  split <;> simp [paints_draw h, Panel.ShowsControls, hs]

/-- A key while the bed is probed by hand paints the controls right if it ends on the print
screen. -/
theorem paints_manualProbe {symbol : Symbol} : (manualProbe symbol).Paints shown a s := by
  simp only [manualProbe, paints_report_bind, paints_panel_bind]
  have hmove (allowed : Bool) (um : Int) :
      (moveProbe allowed um).Paints shown a { s with looks := s.looks + 1 } :=
    paints_moveProbe (s := { s with looks := s.looks + 1 }) h hs
  cases symbol with
  | cw => exact hmove _ _
  | fastCw => exact hmove _ _
  | ccw => exact hmove _ _
  | fastCcw => exact hmove _ _
  | enter => simp [paints_draw h, Panel.ShowsControls, hs]
  | longEnter => simp [paints_goTo h]
  | idle => exact Scene.faithful_of_ne hs

end Menus

/-! ### Handling a key on the print screen -/

section Printing

variable (h : ∀ n, a.display n = none)
include h

/-- A press on a button leaves the controls right, or leaves the print screen. -/
theorem paints_pressPrintButton (hs : s.Faithful shown)
    (hopen : s.panel.print.completionShown = false) :
    (pressPrintButton s.panel.places.print.position).Paints shown a s := by
  unfold pressPrintButton
  split
  · simp [paints_goTo h]
  · next hbutton =>
    rw [paints_panel_bind]
    split
    · simp only [paints_send_bind, paints_change_bind, paints_panel_bind]
      intro _
      rw [paints_draw h, Scene.drawnCalls_afterCommand]
      refine (Panel.showsControls_iff_of_open ?_).mpr fun hscreen => ?_
      · exact hopen
      have hbuttons := (Panel.showsControls_iff_of_open hopen).mp hs hscreen
      have hdrawn := Display.Canvas.alike_pause hbuttons false
      rw [hbutton] at hdrawn
      simpa [hbutton] using hdrawn
    · simp [ask, paints_goTo h]
  · simp [ask, paints_goTo h]

/-- A key on the print screen moves the highlight from one button to the next, or leaves the print
screen. -/
theorem paints_printProcess {symbol : Symbol} (hs : s.Faithful shown)
    (hcursor : s.panel.places.print.position < printButtonCount) :
    (printProcess symbol).Paints shown a s := by
  simp only [printProcess, paints_panel_bind]
  split
  · split
    · simp [paints_goTo h]
    · exact hs
  · next hopen =>
    split
    · split
      · rw [paints_change_bind, paints_draw h]
        refine (Panel.showsControls_iff_of_open ?_).mpr fun hscreen => ?_
        · exact eq_false_of_ne_true hopen
        have hbuttons :=
          (Panel.showsControls_iff_of_open (eq_false_of_ne_true hopen)).mp hs hscreen
        have hnext : (s.panel.places.print.step symbol.isCw printButtonCount).position <
            printButtonCount :=
          (Menu.Cursor.step_lt_or_le _ _ (by decide)).elim id (Nat.lt_of_le_of_lt · hcursor)
        exact Display.Canvas.alike_turn hcursor hnext hbuttons
      · exact hs
    · split
      · exact paints_pressPrintButton h hs (eq_false_of_ne_true hopen)
      · exact hs

/-- Accepting an edit that was opened elsewhere does not lead to the print screen. -/
theorem paints_acceptEdit {e : Edit} (hreturn : e.returnTo ≠ .printProcess) :
    (acceptEdit e).Paints shown a s := by
  simp only [acceptEdit, paints_change_bind, paints_panel_bind]
  rw [Paints, ensures_bind, ensures_draw_iff h]
  cases e.effect with
  | command c => exact (paints_send c).mpr fun _ => Scene.faithful_of_ne hreturn
  | preset m field value => exact Scene.faithful_of_ne hreturn

/-- A key on an edit that was opened elsewhere does not lead to the print screen. -/
theorem paints_valueEdit {symbol : Symbol} (hs : s.panel.screen ≠ .printProcess)
    (hreturn : ∀ e, s.panel.edit = some e → e.returnTo ≠ .printProcess) :
    (valueEdit symbol).Paints shown a s := by
  simp only [valueEdit_eq, paints_panel_bind]
  split
  · exact paints_goTo h _
  · next e he =>
    split
    · exact paints_acceptEdit h (hreturn e he)
    · split
      · simp [paints_draw h, Panel.ShowsControls, hs]
      · exact Scene.faithful_of_ne hs

/-- A key is handled in such a way that the print screen shows its controls. -/
theorem paints_handle {symbol : Symbol} (hs : s.Faithful shown)
    (hcursor : s.panel.places.print.position < printButtonCount)
    (hreturn : ∀ e, s.panel.edit = some e → e.returnTo ≠ .printProcess) :
    (handle s.panel.screen symbol).Paints shown a s := by
  by_cases hprint : s.panel.screen = .printProcess
  · rw [hprint]
    exact paints_printProcess h hs hcursor
  · cases hup : s.panel.screen
    case mainMenu => exact paints_mainMenu h hprint
    case selectFile => exact paints_listKey h hprint (paints_enterFiles h hprint)
    case prepare => exact paints_listKey h hprint (paints_enterPrepare h hprint)
    case control => exact paints_listKey h hprint (paints_enterControl h hprint)
    case misc => exact paints_listKey h hprint (paints_enterMisc h hprint)
    case printProcess => exact absurd hup hprint
    case axisMove => exact paints_listKey h hprint (paints_enterAxes h hprint)
    case temperature => exact paints_listKey h hprint (paints_enterTemperature h hprint)
    case motion => exact paints_listKey h hprint (paints_enterMotion h hprint)
    case info => exact paints_info h hprint
    case tune => exact paints_listKey h hprint (paints_enterTune h hprint)
    case plaPreheat | tpuPreheat => exact paints_listKey h hprint (paints_enterPreset h hprint)
    case featureNotAvailable => exact paints_featureNotAvailable h hprint
    case homing => exact Scene.faithful_of_ne hprint
    case printWindow => exact paints_printWindow h hprint
    case tooCold => exact paints_tooCold h hprint
    case manualProbe => exact paints_manualProbe h hprint
    case messagePopup => exact paints_messagePopup h hprint
    case iconFinder => exact paints_iconFinder h hprint
    case maxSpeed | maxSpeedValue | maxAcceleration | maxAccelerationValue | maxJerk |
        maxJerkValue | step | stepValue =>
      exact paints_motionEditor h hprint
    all_goals exact paints_valueEdit h hprint hreturn

end Printing

/-! ### Recovering -/

/-- Where another screen is up, any drawing will do. -/
theorem faithful_of_redrawn {q : Panel} (hq : q.screen ≠ .printProcess)
    (h : ({ s with panel := q } : Scene).Redrawn t) : t.Faithful shown :=
  Scene.faithful_of_ne (by rw [h.panel_eq]; exact hq)

/-- The error for a declined command is not blank. -/
theorem not_allBlank_error (text : String) :
    Text.allBlank ("Error: " ++ text).toList = false := by
  have hletter : Text.isBlank 'E' = false := by decide
  simp [Text.allBlank, hletter]

/-- A message that is not blank covers every screen. -/
theorem withMessage_screen {p : Panel} {text : String} (h : Text.allBlank text.toList = false) :
    (p.withMessage text).screen = .messagePopup := by
  simp [Panel.withMessage, h]

/-- A declined command ends with a message, and not on the print screen. -/
theorem Paints.recovering {act : Act Unit} (h : act.Paints shown a s) :
    ∃ t, recovering act a s = .ok () t ∧ t.Faithful shown := by
  rw [recovering_eq]
  unfold Paints Ensures at h
  cases hact : act a s with
  | ok _ t =>
    simp only [hact] at h
    exact ⟨t, rfl, h⟩
  | error f t =>
    simp only [hact] at h
    obtain ⟨r, rfl⟩ := h
    obtain ⟨u, hu, hdrawn⟩ := showMessage_eq (a := a) (s := t) ("Error: " ++ r.message)
    refine ⟨u, hu, faithful_of_redrawn ?_ hdrawn⟩
    rw [withMessage_screen (not_allBlank_error _)]
    decide

/-- Lighting the display leaves no marks. -/
theorem replay_lights {level : Nat} {d : Drawing} (h : d ⊆ [.light level]) :
    replay shown d = shown := by
  induction d with
  | nil => rfl
  | cons c rest ih =>
    have hlight : c = .light level := List.mem_singleton.mp (h List.mem_cons_self)
    rw [hlight, Display.replay_cons]
    exact ih (List.subset_of_cons_subset h)

/-- Waking the display leaves the controls as they are shown. -/
theorem faithful_woken {lights : Drawing} {level : Nat} (hlights : lights ⊆ [.light level])
    (hs : s.Faithful shown) : (woken s lights).Faithful shown := by
  have hdrawn : drawnCalls (woken s lights).events = drawnCalls s.events ++ lights := by
    simp [woken, Scene.afterCalls]
  unfold Scene.Faithful
  rw [hdrawn, Display.replay_append, replay_lights hlights]
  exact hs

/-- A key leaves the print screen, if that is up, with its controls. -/
theorem key_faithful (h : ∀ n, a.display n = none) (k : Key) (hs : s.Faithful shown)
    (hcursor : s.panel.places.print.position < printButtonCount)
    (hreturn : ∀ e, s.panel.edit = some e → e.returnTo ≠ .printProcess) :
    ∃ t, key k a s = .ok () t ∧ t.Faithful shown := by
  obtain ⟨lights, hlights, hkey⟩ := key_eq (a := a) (s := s) k
  rw [hkey]
  have hhandled : (handle s.panel.screen (s.panel.symbolOf k)).Paints shown a (woken s lights) :=
    paints_handle (s := woken s lights) h (faithful_woken hlights hs) hcursor hreturn
  exact hhandled.recovering

/-- A key of the knob is handled to its end and leaves the controls right. -/
theorem keyOfKnob_faithful (h : ∀ n, a.display n = none) (decode : Knob → Option Key × Knob)
    (hs : s.Faithful shown) (hcursor : s.panel.places.print.position < printButtonCount)
    (hreturn : ∀ e, s.panel.edit = some e → e.returnTo ≠ .printProcess) :
    ∃ t, keyOfKnob decode a s = .ok () t ∧ t.Faithful shown := by
  rw [keyOfKnob_eq]
  cases hk : (decode s.panel.knob).1 with
  | none => exact ⟨_, rfl, hs⟩
  | some k =>
    exact key_faithful (s := { s with panel :=
      { s.panel with knob := (decode s.panel.knob).2 } }) h k hs hcursor hreturn

end Act

end PrinterPanel
