import PrinterPanel.Proofs.Commands
import PrinterPanel.Proofs.PrintControls
import PrinterPanel.Proofs.Reachable

/-!
# Declined commands

A command that the printer declines ends the key which sent it, with a message over the screen that
the command belongs to. Every handler sends a command before it changes anything for it, so that
the menus are as if the key had not been pressed: `Panel.SetBack` says what is as before. The
judgement `Act.Declines` says on which panels an act may find a command of it declined.
-/

namespace PrinterPanel

open Menu

namespace Panel

/-- The screen that the commands of a key belong to: the menu of an edit, the print screen for the
answer to its question, and otherwise the screen that is up. -/
def commandScreen (p : Panel) : Screen :=
  match p.edit with
  | some e => e.returnTo
  | none => if p.screen = .printWindow then .printProcess else p.screen

/-- A command without an edit or a question belongs to the screen that is up. -/
theorem commandScreen_of_none {p : Panel} (hedit : p.edit = none)
    (hscreen : p.screen ≠ .printWindow) : p.commandScreen = p.screen := by
  rw [commandScreen, hedit]
  exact if_neg hscreen

/-- The menus and what is kept about print, probing and homing are as before, and an edit is
closed. -/
structure SetBack (p q : Panel) : Prop where
  places : q.places = p.places
  settings : q.settings = p.settings
  browser : q.browser = p.browser
  probe : q.probe = p.probe
  homing : q.homing = p.homing
  paused : q.print.paused = p.print.paused
  completionShown : q.print.completionShown = p.print.completionShown
  edit : q.edit = none

/-- A panel on which a command is declined. -/
structure Declining (p q : Panel) : Prop extends p.SetBack q where
  canvas : q.canvas = p.canvas
  screen : q.screen = p.commandScreen

/-- Without an edit, a command is declined on the panel as it is. -/
theorem declining_refl {p : Panel} (hedit : p.edit = none) (hscreen : p.screen ≠ .printWindow) :
    p.Declining p :=
  ⟨⟨rfl, rfl, rfl, rfl, rfl, rfl, rfl, hedit⟩, rfl, (commandScreen_of_none hedit hscreen).symm⟩

end Panel

namespace Scene

variable {a : Answers} {s t u : Scene} {done more : List Command}

/-- From one scene to a later one these commands were sent, and all of them were accepted. -/
structure Accepted (s : Scene) (done : List Command) (t : Scene) : Prop where
  sent : sentCommands t.events = sentCommands s.events ++ done.map (·, true)
  counted : t.commands = s.commands + done.length

/-- Nothing is sent by changing the panel and drawing. -/
theorem Redrawn.accepted_nil {p : Panel} (h : ({ s with panel := p } : Scene).Redrawn t) :
    s.Accepted [] t := by
  obtain ⟨shown, calls, rfl⟩ := h
  exact ⟨by simp [afterCalls], rfl⟩

/-- A command that the printer takes is accepted. -/
theorem accepted_afterCommand (s : Scene) (c : Command) : s.Accepted [c] (s.afterCommand c true) :=
  ⟨by simp [afterCommand], rfl⟩

/-- Commands that are accepted one after the other are all accepted. -/
theorem Accepted.trans (hst : s.Accepted done t) (htu : t.Accepted more u) :
    s.Accepted (done ++ more) u where
  sent := by simp [htu.sent, hst.sent]
  counted := by simp [htu.counted, hst.counted, Nat.add_assoc]

/-- After commands that were accepted, one was declined, on a panel of some kind. -/
structure Declined (s : Scene) (I : Panel → Prop) (a : Answers) (r : Refusal) (t : Scene)
    (done : List Command) (before : List Event) (c : Command) : Prop where
  events : t.events = before ++ [.sent c false]
  sent : sentCommands before = sentCommands s.events ++ done.map (·, true)
  answer : a.command (s.commands + done.length) = some r
  panel : I t.panel

/-- How an act that sends commands is cut short. -/
def CutShort (s : Scene) (I : Panel → Prop) (a : Answers) : Fault → Scene → Prop
  | .display _, t => ∃ done, s.Accepted done t
  | .refused r, t => ∃ done before c, s.Declined I a r t done before c

/-- A command that the printer declines cuts the act short. -/
theorem cutShort_afterCommand {I : Panel → Prop} {c : Command} {r : Refusal} (hI : I s.panel)
    (h : a.command s.commands = some r) :
    s.CutShort I a (.refused r) (s.afterCommand c false) :=
  ⟨[], s.events, c, rfl, by simp, h, hI⟩

/-- Accepted commands that come first are counted in. -/
theorem CutShort.after {I : Panel → Prop} {f : Fault} (hst : s.Accepted done t)
    (h : t.CutShort I a f u) : s.CutShort I a f u := by
  cases f with
  | display f =>
    obtain ⟨more, htu⟩ := h
    exact ⟨done ++ more, hst.trans htu⟩
  | refused r =>
    obtain ⟨more, before, c, hu⟩ := h
    refine ⟨done ++ more, before, c, hu.events, by simp [hu.sent, hst.sent], ?_, hu.panel⟩
    rw [List.length_append, ← Nat.add_assoc, ← hst.counted]
    exact hu.answer

end Scene

namespace Act

variable {α β : Type} {a : Answers} {s t : Scene} {I : Panel → Prop}

/-- An act whose commands are accepted, unless it is cut short by one that is declined; the panel is
then of some kind. -/
def Declines (act : Act α) (I : Panel → Prop) (a : Answers) (s : Scene) : Prop :=
  act.Ensures (fun _ t => ∃ done, s.Accepted done t) (s.CutShort I a) a s

/-! ### One rule for each kind of step -/

/-- What comes after commands that were accepted. -/
theorem Declines.after {act : Act α} {done : List Command} (h : act.Declines I a t)
    (hst : s.Accepted done t) :
    act.Ensures (fun _ u => ∃ more, s.Accepted more u) (s.CutShort I a) a t := by
  apply Ensures.mono h
  · rintro _ u ⟨more, htu⟩
    exact ⟨done ++ more, hst.trans htu⟩
  · exact fun _ _ hu => hu.after hst

/-- A look at the panel may come first. -/
@[simp] theorem declines_panel_bind (next : Panel → Act β) :
    (panel >>= next).Declines I a s ↔ (next s.panel).Declines I a s :=
  ensures_panel_bind next

/-- Listing the files may come first. -/
@[simp] theorem declines_listFiles_bind (next : Option (List String) → Act β) :
    (listFiles >>= next).Declines I a s ↔ (next a.files).Declines I a s :=
  ensures_listFiles_bind next

/-- A change of the panel may come first if the rest copes with the new one. -/
theorem declines_change_bind {f : Panel → Panel} {next : Unit → Act β}
    (h : (next ()).Declines I a { s with panel := f s.panel }) :
    (change f >>= next).Declines I a s := by
  have hstart : s.Accepted [] { s with panel := f s.panel } := ⟨by simp, rfl⟩
  rw [Declines, ensures_change_bind]
  exact h.after hstart

/-- Asking for a report may come first. -/
theorem declines_report_bind {next : Status → Act β}
    (h : ∀ r, (next r).Declines I a { s with looks := s.looks + 1 }) :
    (report >>= next).Declines I a s := by
  have hstart : s.Accepted [] { s with looks := s.looks + 1 } := ⟨by simp, rfl⟩
  rw [Declines, ensures_report_bind]
  exact (h _).after hstart

/-- An act that draws only is not declined anything, and what follows begins with the panel that it
leaves. -/
theorem Becomes.declines_bind {act : Act α} {next : α → Act β} {q : Panel}
    (h : act.Becomes q a s) (hnext : ∀ x t, t.panel = q → (next x).Declines I a t) :
    (act >>= next).Declines I a s := by
  rw [Declines, ensures_bind]
  apply Ensures.mono h
  · exact fun x t ht => (hnext x t ht.panel_eq).after ht.accepted_nil
  · rintro f t ⟨⟨n, failure, rfl, -⟩, ht⟩
    exact ⟨[], ht.accepted_nil⟩

/-- An act that changes and draws only has nothing declined. -/
theorem Becomes.declines {act : Act α} {q : Panel} (h : act.Becomes q a s) :
    act.Declines I a s := by
  apply Ensures.mono h
  · exact fun _ _ ht => ⟨[], ht.accepted_nil⟩
  · rintro f t ⟨⟨n, failure, rfl, -⟩, ht⟩
    exact ⟨[], ht.accepted_nil⟩

/-- A result that is given has nothing declined. -/
@[simp] theorem declines_pure (x : α) : (pure x : Act α).Declines I a s :=
  ⟨[], by simp, rfl⟩

/-- A change of the panel has nothing declined. -/
@[simp] theorem declines_change (f : Panel → Panel) : (change f).Declines I a s :=
  ⟨[], by simp, rfl⟩

/-- A drawing has nothing declined. -/
@[simp] theorem declines_draw (d : Display.Drawing) : (draw d).Declines I a s :=
  ((becomes_draw d).mpr rfl).declines

/-- Going to a screen has nothing declined. -/
@[simp] theorem declines_goTo (screen : Screen) : (goTo screen).Declines I a s :=
  ((becomes_goTo screen).mpr rfl).declines

/-- A command is declined on the panel as it is. -/
theorem declines_send {c : Command} (hI : I s.panel) : (send c).Declines I a s := by
  rw [Declines, ensures_send]
  exact ⟨fun _ => ⟨[c], s.accepted_afterCommand c⟩,
    fun _ hr => Scene.cutShort_afterCommand hI hr⟩

/-- A command comes before the changes for it. -/
theorem declines_send_bind {c : Command} {next : Unit → Act β} (hI : I s.panel)
    (hnext : (next ()).Declines I a (s.afterCommand c true)) :
    (send c >>= next).Declines I a s := by
  rw [Declines, ensures_send_bind]
  exact ⟨fun _ => hnext.after (s.accepted_afterCommand c),
    fun _ hr => Scene.cutShort_afterCommand hI hr⟩

/-- Opening a list has nothing declined. -/
@[simp] theorem declines_openList (m : ListMenu) : (openList m).Declines I a s :=
  declines_change_bind (declines_goTo _)

/-- Going back to a list has nothing declined. -/
@[simp] theorem declines_backToList (m : ListMenu) (item : Nat) :
    (backToList m item).Declines I a s :=
  declines_change_bind (declines_goTo _)

/-- Going back to the main menu has nothing declined. -/
@[simp] theorem declines_backToMainMenu (page : Nat) : (backToMainMenu page).Declines I a s :=
  declines_change_bind (declines_goTo _)

/-- Beginning an edit has nothing declined. -/
@[simp] theorem declines_beginEdit (field : Field) (initial : Int) (returnTo : Screen) (row : Nat) :
    (beginEdit field initial returnTo row).Declines I a s :=
  declines_change_bind (declines_draw _)

/-- Putting up the notice that a function is missing has nothing declined. -/
@[simp] theorem declines_notAvailable : notAvailable.Declines I a s :=
  declines_change_bind (declines_goTo _)

/-- Asking a question has nothing declined. -/
@[simp] theorem declines_ask (action : PrintAction) : (ask action).Declines I a s :=
  declines_change_bind (declines_goTo _)

/-! ### Menus -/

/-- A key in the main menu has nothing declined. -/
theorem declines_mainMenu {symbol : Symbol} : (mainMenu symbol).Declines I a s := by
  simp only [mainMenu, declines_panel_bind]
  split
  · split
    · exact declines_change_bind (declines_draw _)
    · simp
  · split
    · unfold openPage
      split
      · simp only [loadFiles, bind_assoc, declines_listFiles_bind]
        exact declines_change_bind (declines_openList _)
      · simp
      · simp
      · rw [declines_panel_bind]
        split <;> simp
    · simp

/-- A key on a list has declined what a press has. -/
theorem declines_listKey {m : ListMenu} {enter : Act Unit} {symbol : Symbol}
    (henter : enter.Declines I a s) : (listKey m enter symbol).Declines I a s := by
  unfold listKey
  split
  · simp only [turnList, declines_panel_bind]
    apply declines_change_bind
    split <;> simp
  · split
    · exact henter
    · simp

/-- A press on an entry of a list has declined what the entry has. -/
theorem declines_withEntry {α : Type} {m : ListMenu} {items : Features → List α}
    {act : α → Act Unit} (hact : ∀ item, (act item).Declines I a s) :
    (withEntry m items act).Declines I a s := by
  simp only [withEntry, declines_panel_bind]
  split
  · simp
  · exact hact _

/-- A file is asked to be printed while the browser stays where it is. -/
theorem declines_enterFiles (hI : I s.panel) : enterFiles.Declines I a s := by
  simp only [enterFiles, declines_panel_bind]
  split
  · apply declines_change_bind
    split <;> simp
  · next index _ =>
    apply declines_change_bind
    obtain hnone | ⟨other, hfolder⟩ | ⟨path, hfile⟩ := s.panel.browser.select_cases index
    · simp [hnone]
    · simp [hfolder]
    · simp only [hfile]
      exact declines_send_bind hI (declines_change_bind (declines_goTo _))

/-- Heating for a material is declined on the panel as it was. -/
theorem declines_preheat (hI : I s.panel) {m : Material} : (preheat m).Declines I a s := by
  simp only [preheat, declines_panel_bind]
  refine declines_send_bind hI (declines_send_bind hI ?_)
  split
  · exact declines_send hI
  · simp

/-- A command of the prepare menu is declined on the panel as it was. -/
theorem declines_enterPrepare (hI : I s.panel) : enterPrepare.Declines I a s := by
  apply declines_withEntry
  intro item
  cases item with
  | back => simp
  | move => exact declines_send_bind hI (declines_openList _)
  | disableSteppers => exact declines_send hI
  | home => exact declines_send_bind hI (declines_change_bind (declines_goTo _))
  | zOffset => exact declines_report_bind fun r => by simp
  | preheatPla | preheatTpu => exact declines_preheat hI
  | cooldown => exact declines_send_bind hI (declines_send_bind hI (declines_send hI))

/-- A press in the control menu has nothing declined. -/
theorem declines_enterControl : enterControl.Declines I a s := by
  apply declines_withEntry
  intro item
  cases item <;> simp

/-- A macro is declined on the panel as it was. -/
theorem declines_enterMisc (hI : I s.panel) : enterMisc.Declines I a s := by
  simp only [enterMisc, declines_panel_bind]
  split
  · exact declines_change_bind (declines_backToMainMenu 3)
  · split
    · simp
    · exact declines_send hI

/-- A key on the page about the machine has nothing declined. -/
theorem declines_info {symbol : Symbol} : (info symbol).Declines I a s := by
  unfold info
  split
  · rw [declines_panel_bind]
    split <;> simp
  · simp

/-- A press in the motion menu has nothing declined. -/
theorem declines_enterMotion : enterMotion.Declines I a s := by
  apply declines_withEntry
  intro item
  cases item <;> simp

/-- A key in an editor of the motion limits has nothing declined. -/
theorem declines_motionEditor {symbol : Symbol} : (motionEditor symbol).Declines I a s := by
  unfold motionEditor
  split <;> simp

/-- A press in the tune menu has nothing declined. -/
theorem declines_enterTune : enterTune.Declines I a s := by
  apply declines_withEntry
  intro item
  apply declines_report_bind
  intro r
  rw [declines_panel_bind]
  cases item with
  | back => exact declines_change_bind (declines_goTo _)
  | speed | hotend | bed | fan | zOffset => simp

/-- A press in the axis menu has nothing declined. -/
theorem declines_enterAxes : enterAxes.Declines I a s := by
  apply declines_withEntry
  intro item
  cases item.axis? with
  | none => simp
  | some axis =>
    apply declines_report_bind
    intro r
    rw [declines_panel_bind]
    cases axis with
    | e =>
      dsimp only
      split <;> simp
    | x | y | z => simp

/-- A press in the temperature menu has nothing declined. -/
theorem declines_enterTemperature : enterTemperature.Declines I a s := by
  apply declines_withEntry
  intro item
  apply declines_report_bind
  intro r
  rw [declines_panel_bind]
  cases item <;> simp

/-- A command of the menu of a preset is declined on the panel as it was. -/
theorem declines_enterPreset (hI : I s.panel) {m : Material} :
    (enterPreset m).Declines I a s := by
  apply declines_withEntry
  intro item
  rw [declines_panel_bind]
  cases item with
  | save => exact declines_send hI
  | back | hotend | bed | fan => simp

/-! ### During a print, on popups and while probing -/

/-- A command of the print screen is declined on the panel as it was. -/
theorem declines_printProcess (hI : I s.panel) {symbol : Symbol} :
    (printProcess symbol).Declines I a s := by
  simp only [printProcess, declines_panel_bind]
  split
  · split
    · exact declines_change_bind (declines_goTo _)
    · simp
  · split
    · split
      · exact declines_change_bind (declines_draw _)
      · simp
    · split
      · unfold pressPrintButton
        split
        · exact declines_change_bind (declines_goTo _)
        · rw [declines_panel_bind]
          split
          · exact declines_send_bind hI (declines_change_bind (by simp))
          · simp
        · simp
      · simp

/-- The answer to a question is sent from the print screen. -/
theorem declines_printWindow {symbol : Symbol}
    (hI : I { s.panel with
      print := { s.panel.print with action := none }, screen := .printProcess }) :
    (printWindow symbol).Declines I a s := by
  unfold printWindow
  split
  · simp only [turnAnswer, declines_panel_bind]
    split
    · exact declines_change_bind (by simp)
    · simp
  · split
    · simp only [giveAnswer, declines_panel_bind]
      apply declines_change_bind
      split
      all_goals first
        | exact declines_send_bind hI (declines_change_bind (declines_goTo _))
        | simp
    · simp

/-- A key on the notice that a function is missing has nothing declined. -/
theorem declines_featureNotAvailable {symbol : Symbol} :
    (featureNotAvailable symbol).Declines I a s := by
  unfold featureNotAvailable
  split
  · rw [declines_panel_bind]
    exact declines_change_bind (declines_goTo _)
  · simp

/-- A key on a message has nothing declined. -/
theorem declines_messagePopup {symbol : Symbol} : (messagePopup symbol).Declines I a s := by
  unfold messagePopup
  split
  · rw [declines_panel_bind]
    exact declines_change_bind (declines_goTo _)
  · simp

/-- A key on the warning of a cold hotend has nothing declined. -/
theorem declines_tooCold {symbol : Symbol} : (tooCold symbol).Declines I a s := by
  unfold tooCold
  split <;> simp

/-- A key in the browser for pictograms has nothing declined. -/
theorem declines_iconFinder {symbol : Symbol} : (iconFinder symbol).Declines I a s := by
  unfold iconFinder
  split
  · rw [declines_panel_bind]
    dsimp only
    split
    · exact declines_change_bind (by simp)
    · simp
  · split <;> simp

/-- A step of the nozzle is declined on the panel as it was. -/
theorem declines_manualProbe (hI : I s.panel) {symbol : Symbol} :
    (manualProbe symbol).Declines I a s := by
  have hmove (allowed : Bool) (um : Int) {t : Scene} (ht : t.panel = s.panel) :
      (moveProbe allowed um).Declines I a t := by
    unfold moveProbe
    have hshow (u : Scene) : (do
        change fun p => { p with probe := { p.probe with outOfRange := !allowed } }
        draw ((← panel).probePicture false) : Act Unit).Declines I a u :=
      declines_change_bind (by simp)
    cases allowed with
    | false => exact hshow t
    | true => exact declines_send_bind (ht ▸ hI) (hshow _)
  apply declines_report_bind
  intro r
  rw [declines_panel_bind]
  cases symbol with
  | cw | fastCw | ccw | fastCcw => exact hmove _ _ rfl
  | enter => exact declines_change_bind (by simp)
  | longEnter => exact declines_send_bind hI (declines_change_bind (declines_goTo _))
  | idle => simp

/-- The command of an edit is sent from its menu. -/
theorem declines_valueEdit {symbol : Symbol}
    (hI : ∀ e, s.panel.edit = some e → I (s.panel.leaving e)) :
    (valueEdit symbol).Declines I a s := by
  rw [valueEdit_eq]
  rw [declines_panel_bind]
  cases hedit : s.panel.edit with
  | none => simp
  | some e =>
    dsimp only
    split
    · apply declines_change_bind
      rw [declines_panel_bind]
      apply ((becomes_draw _).mpr rfl).declines_bind
      intro _ t ht
      cases e.effect with
      | command c =>
        apply declines_send
        rw [ht]
        exact hI e hedit
      | preset m field value => simp [takeEffect]
    · split
      · exact declines_change_bind (declines_draw _)
      · simp

/-- A command is sent before anything is changed for it. Only an answer to a question and an edit
leave their screen before that. -/
theorem declines_handle (symbol : Symbol)
    (hplain : s.panel.screen ≠ .printWindow → s.panel.screen.isEditor = false → I s.panel)
    (hwindow : s.panel.screen = .printWindow → I { s.panel with
      print := { s.panel.print with action := none }, screen := .printProcess })
    (hedit : s.panel.screen.isEditor = true →
      ∀ e, s.panel.edit = some e → I (s.panel.leaving e)) :
    (handle s.panel.screen symbol).Declines I a s := by
  cases hscreen : s.panel.screen <;> simp only [hscreen, ne_eq, reduceCtorEq, not_false_eq_true,
    not_true_eq_false, forall_const, Screen.isEditor] at hplain hwindow hedit
  case mainMenu => exact declines_mainMenu
  case selectFile => exact declines_listKey (declines_enterFiles hplain)
  case prepare => exact declines_listKey (declines_enterPrepare hplain)
  case control => exact declines_listKey declines_enterControl
  case misc => exact declines_listKey (declines_enterMisc hplain)
  case axisMove => exact declines_listKey declines_enterAxes
  case temperature => exact declines_listKey declines_enterTemperature
  case motion => exact declines_listKey declines_enterMotion
  case tune => exact declines_listKey declines_enterTune
  case plaPreheat | tpuPreheat => exact declines_listKey (declines_enterPreset hplain)
  case info => exact declines_info
  case printProcess => exact declines_printProcess hplain
  case printWindow => exact declines_printWindow hwindow
  case manualProbe => exact declines_manualProbe hplain
  case iconFinder => exact declines_iconFinder
  case featureNotAvailable => exact declines_featureNotAvailable
  case messagePopup => exact declines_messagePopup
  case tooCold => exact declines_tooCold
  case homing => exact declines_pure ()
  case maxSpeed | maxSpeedValue | maxAcceleration | maxAccelerationValue | maxJerk | maxJerkValue |
      step | stepValue =>
    exact declines_motionEditor
  case moveX | moveY | moveZ | extruder | hotendTemp | zOffset | bedTemp | fanSpeed | printSpeed =>
    exact declines_valueEdit hedit

/-- Commands are declined with the menus as they are. -/
theorem declines_declining (h : s.panel.EditSession) (symbol : Symbol) :
    (handle s.panel.screen symbol).Declines s.panel.Declining a s := by
  have hclosed (heditor : s.panel.screen.isEditor = false) : s.panel.edit = none :=
    h.edit_eq_none (Panel.free_of_isEditor_eq_false heditor)
  apply declines_handle
  · intro hother heditor
    exact Panel.declining_refl (hclosed heditor) hother
  · intro hscreen
    have hedit : s.panel.edit = none := hclosed (by rw [hscreen]; rfl)
    refine ⟨⟨rfl, rfl, rfl, rfl, rfl, rfl, rfl, hedit⟩, rfl, ?_⟩
    simp [Panel.commandScreen, hscreen, hedit]
  · intro _ e he
    refine ⟨⟨rfl, rfl, rfl, rfl, rfl, rfl, rfl, rfl⟩, rfl, ?_⟩
    simp [Panel.commandScreen, he, Panel.leaving]

/-! ### The message for a declined command -/

/-- A message that is not blank is drawn over the screen, as a whole if the display does not
fail. -/
theorem showMessage_shows {text : String} (htext : Text.allBlank text.toList = false) :
    ∃ shown calls, shown <+: s.panel.canvas.messageBox text ∧
      ((∀ n, a.display n = none) → shown = s.panel.canvas.messageBox text) ∧
      showMessage text a s =
        .ok () (({ s with panel := s.panel.withMessage text }).afterCalls shown calls) := by
  have hcanvas : (s.panel.withMessage text).canvas = s.panel.canvas := by
    simp only [Panel.withMessage, htext, Bool.false_eq_true, if_false, Panel.abandonEdit]
    split <;> rfl
  let d := (s.panel.withMessage text).canvas.messageBox text
  let t : Scene := { s with panel := s.panel.withMessage text }
  have hdraws : showMessage text a s = drawIfPossible d a t := by
    simp only [d, t]
    unfold showMessage Panel.withMessage
    simp only [htext]
    rfl
  have hends : (drawIfPossible d).Ends
      (fun _ u => ∃ shown calls, shown <+: d ∧ ((∀ n, a.display n = none) → shown = d) ∧
        u = t.afterCalls shown calls) a t := by
    rw [Ends, drawIfPossible, ensures_tryCatch]
    apply ensures_draw
    · exact ⟨d, d.length, List.prefix_refl d, fun _ => rfl, rfl⟩
    · intro f shown hshown hfailed
      refine ⟨shown, _, hshown, fun hdisplay => ?_, rfl⟩
      rw [hdisplay] at hfailed
      contradiction
  obtain ⟨_, u, hu, shown, calls, hshown, hwhole, rfl⟩ := exists_eq_ok hends
  rw [← hcanvas]
  exact ⟨shown, calls, hshown, hwhole, hdraws.trans hu⟩

end Act

namespace Panel

variable {p q : Panel} {a : Answers} {c : Command}

/-- No command belongs to a message. -/
theorem commandScreen_ne (h : p.EditSession) (hsends : p.screen.sends c) :
    p.commandScreen ≠ .messagePopup := by
  unfold commandScreen
  split
  · next e he =>
    obtain ⟨-, -, m, hreturn, -⟩ := h.opened e he
    intro hmessage
    exact m.screen_notMem (by rw [hreturn, hmessage]; decide)
  · split
    · decide
    · intro hmessage
      rw [hmessage] at hsends
      cases c <;> contradiction

/-- The message for a declined command changes nothing but what is shown. -/
theorem Declining.withMessage {text : String} (h : p.Declining q)
    (hscreen : p.commandScreen ≠ .messagePopup) (htext : Text.allBlank text.toList = false) :
    (q.withMessage text).screen = .messagePopup ∧
      (q.withMessage text).popupCaller = some p.commandScreen ∧ p.SetBack (q.withMessage text) := by
  have hkept : q.abandonEdit = q := by simp [abandonEdit, h.edit]
  have hmessage : q.withMessage text =
      { q with popupCaller := some p.commandScreen, screen := .messagePopup } := by
    simp [Panel.withMessage, htext, hkept, h.screen, hscreen]
  rw [hmessage]
  exact ⟨rfl, rfl, h.places, h.settings, h.browser, h.probe, h.homing, h.paused, h.completionShown,
    h.edit⟩

/-- A key one of whose commands is declined ends with the message for that command. -/
theorem exists_declined {k : Key} {I : Panel → Prop} {w : Scene}
    (hw : w = Act.woken (.opening p) ((Scene.opening p).waking a))
    (hhandle : (Act.handle p.screen (p.symbolOf k)).Declines I a w)
    (hdeclined : (c, false) ∈ sentCommands (p.perform (.key k) a).events) :
    ∃ done r before shown t calls, w.Declined I a r t done before c ∧
      shown <+: t.panel.canvas.messageBox ("Error: " ++ r.message) ∧
      ((∀ n, a.display n = none) →
        shown = t.panel.canvas.messageBox ("Error: " ++ r.message)) ∧
      p.perform (.key k) a =
        ({ t with panel := t.panel.withMessage ("Error: " ++ r.message) }).afterCalls shown
          calls := by
  have hkey : (Operation.key k).act a (.opening p) =
      Act.recovering (Act.handle p.screen (p.symbolOf k)) a w := hw ▸ Act.key_eq_waking k
  have hnothing : sentCommands w.events = [] := by
    simp [hw, Act.woken, Scene.afterCalls, Scene.opening]
  rw [Act.recovering_eq] at hkey
  unfold Act.Declines Act.Ensures at hhandle
  -- Without a refusal, all commands are accepted.
  have haccepted {t : Scene} {done : List Command} (ht : w.Accepted done t)
      (hend : (Operation.key k).act a (.opening p) = .ok () t) : False := by
    rw [perform_eq hend, ht.sent, hnothing] at hdeclined
    simp at hdeclined
  cases hact : Act.handle p.screen (p.symbolOf k) a w with
  | ok x t =>
    rw [hact] at hkey hhandle
    obtain ⟨done, ht⟩ := hhandle
    exact (haccepted ht hkey).elim
  | error f t =>
    rw [hact] at hkey hhandle
    cases f with
    | display f =>
      obtain ⟨done, ht⟩ := hhandle
      exact (haccepted ht hkey).elim
    | refused r =>
      obtain ⟨done, before, c', ht⟩ := hhandle
      obtain ⟨shown, calls, hshown, hwhole, hmessage⟩ :=
        Act.showMessage_shows (a := a) (s := t) (Act.not_allBlank_error r.message)
      have hend := perform_eq (hkey.trans hmessage)
      have hlast : c = c' := by
        simp only [hend, Scene.afterCalls, ht.events, sentCommands_append, sentCommands_sent,
          sentCommands_drawn, ht.sent, hnothing] at hdeclined
        simpa using hdeclined
      subst hlast
      exact ⟨done, r, before, shown, t, calls, ht, hshown, hwhole, hend⟩

/-- A command that is declined is the last one of its key. The reason is shown as a message over the
screen that the command belongs to, and everything else is as before the key, except that an edit is
closed. -/
theorem Reachable.declined_key (h : p.Reachable) {k : Key}
    (hdeclined : .sent c false ∈ (p.perform (.key k) a).events) :
    let t := p.perform (.key k) a
    (∃ (done : List Command) (r : Refusal) (before : List Event) (shown : Display.Drawing),
      t.events = before ++ [.sent c false] ++ shown.map .drawn ∧
        sentCommands before = done.map (·, true) ∧ a.command done.length = some r ∧
        shown <+: p.canvas.messageBox ("Error: " ++ r.message) ∧
        ((∀ n, a.display n = none) →
          shown = p.canvas.messageBox ("Error: " ++ r.message))) ∧
      t.panel.screen = .messagePopup ∧ t.panel.popupCaller = some p.commandScreen ∧
      p.SetBack t.panel := by
  have hmember : (c, false) ∈ sentCommands (p.perform (.key k) a).events := by
    simp only [sentCommands, List.mem_filterMap]
    exact ⟨_, hdeclined, rfl⟩
  have hsession : p.awake.EditSession := invariant_editSession.persists.awake h.editSession p.knob
  have hcommand : c ∈ p.commandsFor (p.reportAt a 0) (p.symbolOf k) :=
    (p.submitted_prefix (.key k) a).subset (List.mem_map_of_mem hmember)
  have hsends : p.screen.sends c := sends_of_mem hcommand
  obtain ⟨done, r, before, shown, t, calls, ht, hshown, hwhole, hend⟩ :=
    exists_declined rfl (Act.declines_declining (s := Act.woken (.opening p) _) hsession _)
      hmember
  obtain ⟨hscreen, hcaller, hback⟩ :=
    ht.panel.withMessage (commandScreen_ne hsession hsends) (Act.not_allBlank_error r.message)
  have hcanvas : t.panel.canvas = p.canvas := ht.panel.canvas
  rw [hcanvas] at hshown hwhole
  rw [hend]
  refine ⟨⟨done, r, before, shown, ?_, ?_, ?_, hshown, hwhole⟩, hscreen, hcaller, ?_⟩
  · simp [Scene.afterCalls, ht.events]
  · simp [ht.sent, Act.woken, Scene.afterCalls, Scene.opening]
  · simpa [Act.woken, Scene.afterCalls, Scene.opening] using ht.answer
  · exact ⟨hback.places, hback.settings, hback.browser, hback.probe, hback.homing, hback.paused,
      hback.completionShown, hback.edit⟩

/-- Cooling down is declined for the bed, and the cursor stays on its entry. -/
theorem declined_key_cooldown :
    let a := { Answers.smooth with command := fun n => if n = 1 then some .busy else none }
    let ops := [.down, .click, .down, .down, .down, .down, .down, .down, .down].map fun k =>
      (Operation.key k, Answers.smooth)
    let p := ((ofSettings .standard 240 320).run ((.start, .smooth) :: ops)).1
    let t := p.perform (.key .click) a
    .sent (.bedTarget 0) false ∈ t.events ∧ t.panel.screen = .messagePopup ∧
      t.panel.popupCaller = some .prepare ∧ t.panel.places.prepare.position = 7 ∧
      p.SetBack t.panel := by
  intro a ops p t
  have hops : ∀ x ∈ ops, x.1 ≠ .start := by decide
  have hdeclined : .sent (.bedTarget 0) false ∈ t.events := by decide +kernel
  have hcaller : p.commandScreen = .prepare := by decide +kernel
  have hposition : p.places.prepare.position = 7 := by decide +kernel
  have hreached : p.Reachable := reachable_of_start .standard 240 320 .smooth hops
  -- The run is not to be computed once more.
  clear_value p
  obtain ⟨-, hmessage, hcovers, hback⟩ := hreached.declined_key hdeclined
  rw [hcaller] at hcovers
  have hstays : t.panel.places.prepare.position = 7 :=
    (congrArg (·.prepare.position) hback.places).trans hposition
  exact ⟨hdeclined, hmessage, hcovers, hstays, hback⟩

end Panel

end PrinterPanel
