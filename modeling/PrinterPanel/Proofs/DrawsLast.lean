import PrinterPanel.Proofs.Report

/-!
# Acts that draw last

An act that draws after everything else it does is not affected by a display call that fails: it
ends in the same panel and sends the same commands as with a display that never fails. Handling a
key is such an act, with one exception: accepting an edit shows the settled value first.
-/

namespace PrinterPanel

open Display (Drawing)

/-- The same answers from a display that never fails. -/
def Answers.clear (a : Answers) : Answers := { a with display := fun _ => none }

/-- The commands among events, each with whether it was accepted. -/
def sentCommands (events : List Event) : List (Command × Bool) :=
  events.filterMap fun
    | .sent c accepted => some (c, accepted)
    | .drawn _ => none

/-- Later commands come behind earlier ones. -/
@[simp] theorem sentCommands_append (first second : List Event) :
    sentCommands (first ++ second) = sentCommands first ++ sentCommands second :=
  List.filterMap_append

/-- No command is sent by drawing. -/
@[simp] theorem sentCommands_drawn (d : Drawing) : sentCommands (d.map .drawn) = [] := by
  simp [sentCommands]

/-- A command counts as sent together with the answer of the printer. -/
@[simp] theorem sentCommands_sent (c : Command) (accepted : Bool) :
    sentCommands [.sent c accepted] = [(c, accepted)] := rfl

namespace Scene

/-- Two scenes with the same panel after the same commands and looks, whatever was drawn. -/
structure Agrees (s t : Scene) : Prop where
  panel : s.panel = t.panel
  sent : sentCommands s.events = sentCommands t.events
  commands : s.commands = t.commands
  looks : s.looks = t.looks

/-- A scene agrees with itself. -/
theorem Agrees.refl (s : Scene) : s.Agrees s := ⟨rfl, rfl, rfl, rfl⟩

/-- Scenes agree in either order. -/
theorem Agrees.symm {s t : Scene} (h : s.Agrees t) : t.Agrees s :=
  ⟨h.panel.symm, h.sent.symm, h.commands.symm, h.looks.symm⟩

/-- Scenes that agree with the same scene agree. -/
theorem Agrees.trans {s t u : Scene} (hst : s.Agrees t) (htu : t.Agrees u) : s.Agrees u :=
  ⟨hst.panel.trans htu.panel, hst.sent.trans htu.sent, hst.commands.trans htu.commands,
    hst.looks.trans htu.looks⟩

/-- Drawings alone do not set scenes apart. -/
theorem Redrawn.agrees {s t : Scene} (h : s.Redrawn t) : s.Agrees t := by
  obtain ⟨shown, calls, rfl⟩ := h
  exact ⟨rfl, by simp [afterCalls], rfl, rfl⟩

/-- The scene as another display has shown it. -/
def shownAs (s : Scene) (events : List Event) (calls : Nat) : Scene :=
  { s with events := events, displayCalls := calls }

/-- A scene that agrees with another one is that scene, shown another way. -/
theorem Agrees.eq_shownAs {s t : Scene} (h : s.Agrees t) :
    t = s.shownAs t.events t.displayCalls := by
  obtain ⟨hpanel, -, hcommands, hlooks⟩ := h
  simp only [shownAs, hpanel, hcommands, hlooks]

/-- Showing a scene another way keeps what agrees, as long as the commands are the same. -/
@[simp] theorem agrees_shownAs (s : Scene) (events : List Event) (calls : Nat) :
    s.Agrees (s.shownAs events calls) ↔ sentCommands s.events = sentCommands events :=
  ⟨Agrees.sent, fun h => ⟨rfl, h, rfl, rfl⟩⟩

end Scene

/-- A command does not set scenes apart. -/
theorem Scene.agrees_afterCommand {s : Scene} {events : List Event} {calls : Nat} (c : Command)
    (accepted : Bool) :
    (s.afterCommand c accepted).Agrees ((s.shownAs events calls).afterCommand c accepted) ↔
      sentCommands s.events = sentCommands events := by
  have hshown : (s.shownAs events calls).afterCommand c accepted =
      (s.afterCommand c accepted).shownAs (events ++ [.sent c accepted]) calls := rfl
  rw [hshown, agrees_shownAs]
  simp [afterCommand]

namespace Act

variable {α β : Type} {a : Answers} {s : Scene} {events : List Event} {calls : Nat}

/-- The outcome of an act and that with a display that never fails: the same result or refusal, or
else a display call failed when there was nothing left to do. -/
def OutcomesAgree : EStateM.Result Fault Scene α → EStateM.Result Fault Scene α → Prop
  | .ok x s, .ok y t => x = y ∧ s.Agrees t
  | .error (.refused r) s, .error f t => f = .refused r ∧ s.Agrees t
  | .error (.display _) s, .ok _ t => s.Agrees t
  | _, _ => False

/-- The act does everything else before it draws. -/
def DrawsLast (act : Act α) (a : Answers) (s : Scene) (events : List Event) (calls : Nat) : Prop :=
  OutcomesAgree (act a s) (act a.clear (s.shownAs events calls))

/-! ### One rule for each kind of step -/

/-- An act that does nothing draws nothing too early. -/
@[simp] theorem drawsLast_pure (x : α) :
    (pure x : Act α).DrawsLast a s events calls ↔ sentCommands s.events = sentCommands events :=
  (and_iff_right rfl).trans (Scene.agrees_shownAs s events calls)

/-- A look at the panel may come first. -/
@[simp] theorem drawsLast_panel_bind (next : Panel → Act β) :
    (panel >>= next).DrawsLast a s events calls ↔ (next s.panel).DrawsLast a s events calls :=
  Iff.rfl

/-- A change of the panel may come first. -/
@[simp] theorem drawsLast_change_bind (f : Panel → Panel) (next : Unit → Act β) :
    (change f >>= next).DrawsLast a s events calls ↔
      (next ()).DrawsLast a { s with panel := f s.panel } events calls := Iff.rfl

/-- A change of the panel draws nothing too early. -/
@[simp] theorem drawsLast_change (f : Panel → Panel) :
    (change f).DrawsLast a s events calls ↔ sentCommands s.events = sentCommands events :=
  drawsLast_pure (a := a) (s := { s with panel := f s.panel }) ()

/-- Listing the files may come first. -/
@[simp] theorem drawsLast_listFiles_bind (next : Option (List String) → Act β) :
    (listFiles >>= next).DrawsLast a s events calls ↔
      (next a.files).DrawsLast a s events calls := Iff.rfl

/-- Asking for a report may come first. -/
@[simp] theorem drawsLast_report_bind (next : Status → Act β) :
    (report >>= next).DrawsLast a s events calls ↔
      (next ((a.status s.looks).getD (s.panel.lastStatus.getD .atRest))).DrawsLast a
        { s with looks := s.looks + 1 } events calls := by
  have hreport (b : Answers) (t : Scene) :
      report b t = .ok ((b.status t.looks).getD (t.panel.lastStatus.getD .atRest))
        { t with looks := t.looks + 1 } := by
    apply eq_ok
    simp
  unfold DrawsLast
  rw [bind_eq (hreport a s), bind_eq (hreport a.clear (s.shownAs events calls))]
  rfl

/-- A command that is accepted counts as sent. -/
theorem send_eq_ok {c : Command} (h : a.command s.commands = none) :
    send c a s = .ok () (s.afterCommand c true) := by
  apply eq_ok
  simp [h]

/-- A command that is refused counts as sent, and the refusal ends the act. -/
theorem send_eq_error {c : Command} {r : Refusal} (h : a.command s.commands = some r) :
    send c a s = .error (.refused r) (s.afterCommand c false) := by
  apply eq_error
  simp [h]

/-- A command is sent before anything is drawn, and a refusal ends both outcomes. -/
@[simp] theorem drawsLast_send_bind (c : Command) (next : Unit → Act β) :
    (send c >>= next).DrawsLast a s events calls ↔
      if a.command s.commands = none then
        (next ()).DrawsLast a (s.afterCommand c true) (events ++ [.sent c true]) calls
      else sentCommands s.events = sentCommands events := by
  unfold DrawsLast
  cases h : a.command s.commands with
  | none =>
    have hclear : a.clear.command (s.shownAs events calls).commands = none := h
    rw [bind_eq (send_eq_ok h), bind_eq (send_eq_ok hclear)]
    rfl
  | some r =>
    have hclear : a.clear.command (s.shownAs events calls).commands = some r := h
    rw [bind_eq_error (send_eq_error h), bind_eq_error (send_eq_error hclear)]
    simp [OutcomesAgree, Scene.agrees_afterCommand]

/-- A command draws nothing. -/
@[simp] theorem drawsLast_send (c : Command) :
    (send c).DrawsLast a s events calls ↔ sentCommands s.events = sentCommands events := by
  unfold DrawsLast
  cases h : a.command s.commands with
  | none =>
    have hclear : a.clear.command (s.shownAs events calls).commands = none := h
    rw [send_eq_ok h, send_eq_ok hclear]
    simp [OutcomesAgree, Scene.agrees_afterCommand]
  | some r =>
    have hclear : a.clear.command (s.shownAs events calls).commands = some r := h
    rw [send_eq_error h, send_eq_error hclear]
    simp [OutcomesAgree, Scene.agrees_afterCommand]

/-- A display that never fails makes every drawing. -/
theorem draw_clear (d : Drawing) (t : Scene) :
    draw d a.clear t = .ok () (t.afterCalls d d.length) := by
  apply eq_ok
  rw [ensures_draw_iff fun _ => rfl]
  exact ⟨rfl, rfl⟩

/-- A drawing does not set scenes apart, even if it is cut short. -/
@[simp] theorem drawsLast_draw (d : Drawing) :
    (draw d).DrawsLast a s events calls ↔ sentCommands s.events = sentCommands events := by
  have hagrees {t : Scene} (ht : s.Redrawn t) :
      t.Agrees ((s.shownAs events calls).afterCalls d d.length) ↔
        sentCommands s.events = sentCommands events := by
    rw [← Scene.agrees_shownAs s events calls]
    have hdrawn := (Scene.redrawn_afterCalls (s.shownAs events calls) d d.length).agrees
    exact ⟨fun h => (ht.agrees.trans h).trans hdrawn.symm,
      fun h => (ht.agrees.symm.trans h).trans hdrawn⟩
  have hbecomes : (draw d).Becomes s.panel a s := (becomes_draw d).mpr rfl
  unfold DrawsLast
  rw [draw_clear]
  unfold Becomes Ensures at hbecomes
  cases hact : draw d a s with
  | ok x t =>
    simp only [hact] at hbecomes
    exact (and_iff_right rfl).trans (hagrees hbecomes)
  | error f t =>
    simp only [hact] at hbecomes
    obtain ⟨⟨n, failure, rfl, -⟩, ht⟩ := hbecomes
    exact hagrees ht

/-- A screen is drawn after the panel has gone to it. -/
@[simp] theorem drawsLast_goTo (screen : Screen) :
    (goTo screen).DrawsLast a s events calls ↔ sentCommands s.events = sentCommands events := by
  simp only [goTo, drawsLast_change_bind, drawsLast_panel_bind, drawsLast_draw]

/-! ### Handling a key -/

section Menus

variable (h : sentCommands s.events = sentCommands events)
include h

/-- Opening a page from the main menu draws last. -/
theorem drawsLast_openPage {page : Nat} : (openPage page).DrawsLast a s events calls := by
  unfold openPage
  split
  · simpa [loadFiles, openList, bind_assoc] using h
  · simpa [openList] using h
  · simpa [openList] using h
  · rw [drawsLast_panel_bind]
    split <;> simpa [openList] using h

/-- The main menu draws last. -/
theorem drawsLast_mainMenu {symbol : Symbol} : (mainMenu symbol).DrawsLast a s events calls := by
  simp only [mainMenu, drawsLast_panel_bind]
  split
  · split <;> simpa using h
  · split
    · exact drawsLast_openPage h
    · simpa using h

/-- A key on a list draws last, if a press on it does. -/
theorem drawsLast_listKey {m : ListMenu} {enter : Act Unit} {symbol : Symbol}
    (henter : enter.DrawsLast a s events calls) :
    (listKey m enter symbol).DrawsLast a s events calls := by
  unfold listKey
  split
  · simp only [turnList, drawsLast_panel_bind, drawsLast_change_bind]
    split <;> simpa using h
  · split
    · exact henter
    · simpa using h

/-- Starting a print draws last. -/
theorem drawsLast_startPrint {path : Files.Path} :
    (startPrint path).DrawsLast a s events calls := by
  simp [startPrint, h, Scene.afterCommand]

/-- A press in the file browser draws last. -/
theorem drawsLast_enterFiles : enterFiles.DrawsLast a s events calls := by
  simp only [enterFiles, drawsLast_panel_bind]
  split
  · simp only [drawsLast_change_bind]
    split <;> simpa [openList, backToMainMenu] using h
  · simp only [drawsLast_change_bind]
    split
    · simpa using h
    · simpa [openList] using h
    · apply drawsLast_startPrint
      exact h

/-- A press on an entry of a list draws last, if every entry does. -/
theorem drawsLast_withEntry {α : Type} {m : ListMenu} {items : Features → List α}
    {act : α → Act Unit} (hact : ∀ item, (act item).DrawsLast a s events calls) :
    (withEntry m items act).DrawsLast a s events calls := by
  simp only [withEntry, drawsLast_panel_bind]
  split
  · simpa using h
  · exact hact _

/-- Heating for a material draws last. -/
theorem drawsLast_preheat {m : Material} : (preheat m).DrawsLast a s events calls := by
  simp only [preheat, drawsLast_panel_bind]
  split <;> simp [h, Scene.afterCommand]

/-- A press in the prepare menu draws last. -/
theorem drawsLast_enterPrepare : enterPrepare.DrawsLast a s events calls := by
  apply drawsLast_withEntry h
  intro item
  cases item with
  | preheatPla => exact drawsLast_preheat h
  | preheatTpu => exact drawsLast_preheat h
  | back | move | disableSteppers | home | zOffset | cooldown =>
    simp [backToMainMenu, openList, beginEdit, h, Scene.afterCommand]

/-- A press in the control menu draws last. -/
theorem drawsLast_enterControl : enterControl.DrawsLast a s events calls := by
  apply drawsLast_withEntry h
  intro item
  cases item <;> simpa [backToMainMenu, openList] using h

/-- A press in the list of macros draws last. -/
theorem drawsLast_enterMisc : enterMisc.DrawsLast a s events calls := by
  simp only [enterMisc, drawsLast_panel_bind]
  split
  · simpa [backToMainMenu] using h
  · split <;> simpa using h

/-- The page about the machine draws last. -/
theorem drawsLast_info {symbol : Symbol} : (info symbol).DrawsLast a s events calls := by
  unfold info
  split
  · rw [drawsLast_panel_bind]
    split <;> simpa [backToList, backToMainMenu] using h
  · simpa using h

/-- A press in the motion menu draws last. -/
theorem drawsLast_enterMotion : enterMotion.DrawsLast a s events calls := by
  apply drawsLast_withEntry h
  intro item
  cases item <;> simpa [backToList, notAvailable] using h

/-- A key in an editor of the motion limits draws last. -/
theorem drawsLast_motionEditor {symbol : Symbol} :
    (motionEditor symbol).DrawsLast a s events calls := by
  unfold motionEditor
  split <;> simpa [notAvailable] using h

/-- A press in the menu for tuning draws last. -/
theorem drawsLast_enterTune : enterTune.DrawsLast a s events calls := by
  apply drawsLast_withEntry h
  intro item
  cases item <;> simpa [beginEdit] using h

/-- Beginning to move an axis draws last. -/
theorem drawsLast_beginMove {axis : Axis} : (beginMove axis).DrawsLast a s events calls := by
  simp only [beginMove, drawsLast_report_bind, drawsLast_panel_bind]
  split
  · split <;> simpa [beginEdit] using h
  · simpa [beginEdit] using h

/-- A press in the menu of the axes draws last. -/
theorem drawsLast_enterAxes : enterAxes.DrawsLast a s events calls := by
  apply drawsLast_withEntry h
  intro item
  split
  · simpa [backToList] using h
  · exact drawsLast_beginMove h

/-- A press in the temperature menu draws last. -/
theorem drawsLast_enterTemperature : enterTemperature.DrawsLast a s events calls := by
  apply drawsLast_withEntry h
  intro item
  cases item <;> simpa [backToList, openList, beginEdit] using h

/-- A press in the menu of a preset draws last. -/
theorem drawsLast_enterPreset {m : Material} : (enterPreset m).DrawsLast a s events calls := by
  apply drawsLast_withEntry h
  intro item
  cases item <;> simpa [backToList, beginEdit] using h

end Menus

section Printing

variable (h : sentCommands s.events = sentCommands events)
include h

/-- A button of the print screen draws last. -/
theorem drawsLast_pressPrintButton {button : Nat} :
    (pressPrintButton button).DrawsLast a s events calls := by
  unfold pressPrintButton
  split
  · simpa using h
  · rw [drawsLast_panel_bind]
    split <;> simp [ask, h, Scene.afterCommand]
  · simpa [ask] using h

/-- The print screen draws last. -/
theorem drawsLast_printProcess {symbol : Symbol} :
    (printProcess symbol).DrawsLast a s events calls := by
  simp only [printProcess, drawsLast_panel_bind]
  split
  · split <;> simpa using h
  · split
    · split <;> simpa using h
    · split
      · exact drawsLast_pressPrintButton h
      · simpa using h

/-- The window with a question draws last. -/
theorem drawsLast_printWindow {symbol : Symbol} :
    (printWindow symbol).DrawsLast a s events calls := by
  unfold printWindow
  split
  · simp only [turnAnswer, drawsLast_panel_bind]
    split <;> simpa using h
  · split
    · simp only [giveAnswer, drawsLast_panel_bind, drawsLast_change_bind]
      split <;> simp [h, Scene.afterCommand]
    · simpa using h

/-- The notice that a function is missing draws last. -/
theorem drawsLast_featureNotAvailable {symbol : Symbol} :
    (featureNotAvailable symbol).DrawsLast a s events calls := by
  unfold featureNotAvailable
  split <;> simpa using h

/-- The warning of a cold hotend draws last. -/
theorem drawsLast_tooCold {symbol : Symbol} : (tooCold symbol).DrawsLast a s events calls := by
  unfold tooCold
  split <;> simpa using h

/-- A message popup draws last. -/
theorem drawsLast_messagePopup {symbol : Symbol} :
    (messagePopup symbol).DrawsLast a s events calls := by
  unfold messagePopup
  split <;> simpa using h

/-- The browser for pictograms draws last. -/
theorem drawsLast_iconFinder {symbol : Symbol} :
    (iconFinder symbol).DrawsLast a s events calls := by
  unfold iconFinder
  split
  · simp only [drawsLast_panel_bind]
    split <;> simpa using h
  · split <;> simpa using h

/-- Moving the nozzle draws last. -/
theorem drawsLast_moveProbe {allowed : Bool} {um : Int} :
    (moveProbe allowed um).DrawsLast a s events calls := by
  unfold moveProbe
  split <;> simp [h, Scene.afterCommand]

/-- Probing by hand draws last. -/
theorem drawsLast_manualProbe {symbol : Symbol} :
    (manualProbe symbol).DrawsLast a s events calls := by
  simp only [manualProbe, drawsLast_report_bind, drawsLast_panel_bind]
  have hmove (allowed : Bool) (um : Int) :
      (moveProbe allowed um).DrawsLast a { s with looks := s.looks + 1 } events calls :=
    drawsLast_moveProbe (s := { s with looks := s.looks + 1 }) h
  cases symbol with
  | cw => exact hmove _ _
  | fastCw => exact hmove _ _
  | ccw => exact hmove _ _
  | fastCcw => exact hmove _ _
  | enter => simpa using h
  | longEnter => simp [h, Scene.afterCommand]
  | idle => simpa using h

/-- An edit that is not accepted is only shown. -/
theorem drawsLast_valueEdit {symbol : Symbol} (hsymbol : symbol = .enter → s.panel.edit = none) :
    (valueEdit symbol).DrawsLast a s events calls := by
  simp only [valueEdit_eq, drawsLast_panel_bind]
  split
  · simpa using h
  · next e he =>
    have hturned : symbol ≠ .enter := by
      intro henter
      rw [hsymbol henter] at he
      contradiction
    rw [if_neg hturned]
    split <;> simpa using h

end Printing

/-- A key is handled by acts that draw last, unless it accepts an edit. -/
theorem drawsLast_handle {screen : Screen} {symbol : Symbol}
    (hsymbol : screen.isEditor → symbol = .enter → s.panel.edit = none)
    (h : sentCommands s.events = sentCommands events) :
    (handle screen symbol).DrawsLast a s events calls := by
  cases screen
  case mainMenu => exact drawsLast_mainMenu h
  case selectFile => exact drawsLast_listKey h (drawsLast_enterFiles h)
  case prepare => exact drawsLast_listKey h (drawsLast_enterPrepare h)
  case control => exact drawsLast_listKey h (drawsLast_enterControl h)
  case misc => exact drawsLast_listKey h (drawsLast_enterMisc h)
  case printProcess => exact drawsLast_printProcess h
  case axisMove => exact drawsLast_listKey h (drawsLast_enterAxes h)
  case temperature => exact drawsLast_listKey h (drawsLast_enterTemperature h)
  case motion => exact drawsLast_listKey h (drawsLast_enterMotion h)
  case info => exact drawsLast_info h
  case tune => exact drawsLast_listKey h (drawsLast_enterTune h)
  case plaPreheat | tpuPreheat => exact drawsLast_listKey h (drawsLast_enterPreset h)
  case featureNotAvailable => exact drawsLast_featureNotAvailable h
  case homing => exact (drawsLast_pure ()).mpr h
  case printWindow => exact drawsLast_printWindow h
  case tooCold => exact drawsLast_tooCold h
  case manualProbe => exact drawsLast_manualProbe h
  case messagePopup => exact drawsLast_messagePopup h
  case iconFinder => exact drawsLast_iconFinder h
  case maxSpeed | maxSpeedValue | maxAcceleration | maxAccelerationValue | maxJerk | maxJerkValue |
      step | stepValue =>
    exact drawsLast_motionEditor h
  all_goals exact drawsLast_valueEdit h (hsymbol rfl)

end Act

end PrinterPanel
