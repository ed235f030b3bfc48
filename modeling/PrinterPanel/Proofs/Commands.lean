import PrinterPanel.Proofs.Invariant
import PrinterPanel.Proofs.Recovery

/-!
# What is sent to the printer

Only a key makes the panel send anything, and the screen that is up decides what. For each screen
the commands of a key are stated as a function of the panel. Handling the key sends these commands
in their order, up to the one that is declined or to a display call that fails; nothing else that
an operation does sends anything.
-/

namespace PrinterPanel

open Menu

/-- The commands among events, whether they were accepted or not. -/
def submitted (events : List Event) : List Command := (sentCommands events).map (·.1)

/-- Later commands come behind earlier ones. -/
@[simp] theorem submitted_append (first second : List Event) :
    submitted (first ++ second) = submitted first ++ submitted second := by
  simp [submitted]

/-- No command is sent by drawing. -/
@[simp] theorem submitted_drawn (d : Display.Drawing) : submitted (d.map .drawn) = [] := by
  simp [submitted]

/-- A command counts as submitted whether the printer accepts it or not. -/
@[simp] theorem submitted_sent (c : Command) (accepted : Bool) :
    submitted [.sent c accepted] = [c] := rfl

/-! ### The commands of a key -/

/-- Heating for a material. -/
def Settings.preheatCommands (s : Settings) (m : Material) : List Command :=
  let preset := s.presets.get m
  [.hotendTarget preset.hotend, .bedTarget preset.bed] ++
    if s.features.fan then [.fanSpeed preset.fan] else []

/-- The commands of an entry of the prepare menu. -/
def Menu.PrepareItem.commands (s : Settings) : PrepareItem → List Command
  | move => [.resetExtruder]
  | disableSteppers => [.disableSteppers]
  | home => [.homeAll]
  | preheatPla => s.preheatCommands .pla
  | preheatTpu => s.preheatCommands .tpu
  | cooldown => [.hotendTarget 0, .bedTarget 0, .fanSpeed 0]
  | back | zOffset => []

/-- The command of an entry of the menu of a preset. -/
def Menu.PreheatItem.commands (s : Settings) : PreheatItem → List Command
  | save => [.savePresets s.presets]
  | back | hotend | bed | fan => []

/-- The command by which a question of the print screen is confirmed. -/
def PrintAction.command : PrintAction → Command
  | pause => .pause
  | stop => .cancel

/-- The commands of an effect. -/
def EditEffect.commands : EditEffect → List Command
  | command c => [c]
  | preset .. => []

namespace Panel

/-- The commands of the entry of a list that the cursor is on. -/
def entryCommands {α : Type} (p : Panel) (m : ListMenu) (items : Features → List α)
    (commands : α → List Command) : List Command :=
  ((items p.settings.features)[(p.places.get m).position]?).elim [] commands

/-- The command to print the file that the cursor is on. -/
def fileCommands (p : Panel) : List Command :=
  match p.places.files.position with
  | 0 => []
  | index + 1 =>
    match (p.browser.select index).1 with
    | some (.file path) => [.startPrint (String.ofList path)]
    | _ => []

/-- The command of the macro that the cursor is on. -/
def macroCommands (p : Panel) : List Command :=
  match p.places.misc.position with
  | 0 => []
  | index + 1 => (p.settings.macros[index]?).elim [] fun m => [.runMacro m.gcode]

/-- The commands of a press. -/
def pressCommands (p : Panel) : List Command :=
  match p.screen with
  | .selectFile => p.fileCommands
  | .prepare => p.entryCommands .prepare PrepareItem.list (·.commands p.settings)
  | .misc => p.macroCommands
  | .printProcess =>
    if p.print.completionShown = false ∧ p.places.print.position = 1 ∧ p.print.paused then
      [.resume]
    else []
  | .printWindow =>
    if p.places.confirm.position = 0 then (p.print.action.map PrintAction.command).toList else []
  | .plaPreheat => p.entryCommands (.preset .pla) PreheatItem.list (·.commands p.settings)
  | .tpuPreheat => p.entryCommands (.preset .tpu) PreheatItem.list (·.commands p.settings)
  | .moveX | .moveY | .moveZ | .extruder | .hotendTemp | .zOffset | .bedTemp | .fanSpeed
  | .printSpeed => p.edit.elim [] (·.effect.commands)
  | _ => []

/-- The chosen step of probing by hand (µm). -/
def probeStep (p : Panel) : Int :=
  Act.probeSteps.getD (p.probe.step % Act.probeSteps.length) 0

/-- The commands of a symbol while the bed is probed at a height. -/
def probeCommands (p : Panel) (um : Int) : Symbol → List Command
  | .cw | .fastCw =>
    if p.settings.limits.z.min < Act.floorMm (um - p.probeStep) then [.probeAdjust (-p.probeStep)]
    else []
  | .ccw | .fastCcw =>
    if Act.ceilMm (um + p.probeStep) < p.settings.limits.z.max then [.probeAdjust p.probeStep]
    else []
  | .longEnter => [.probeAccept]
  | .enter | .idle => []

/-- The commands of a symbol. The report is the one at hand. -/
def commandsFor (p : Panel) (r : Status) (symbol : Symbol) : List Command :=
  if p.screen = .manualProbe then p.probeCommands (r.probe.getD 0) symbol
  else if symbol = .enter then p.pressCommands
  else []

/-- Without a press nothing is sent, unless the bed is probed. -/
theorem commandsFor_of_ne {p : Panel} (hscreen : p.screen ≠ .manualProbe) (r : Status)
    {symbol : Symbol} (hsymbol : symbol ≠ .enter) : p.commandsFor r symbol = [] := by
  rw [commandsFor, if_neg hscreen, if_neg hsymbol]

/-- A press sends what the screen says, unless the bed is probed. -/
theorem commandsFor_enter {p : Panel} (hscreen : p.screen ≠ .manualProbe) (r : Status) :
    p.commandsFor r .enter = p.pressCommands := by
  rw [commandsFor, if_neg hscreen, if_pos rfl]

/-- The report that a look during an operation gives, or the last one. -/
def reportAt (p : Panel) (a : Answers) (look : Nat) : Status :=
  (a.status look).getD (p.lastStatus.getD .atRest)

end Panel

/-! ### Acts that send -/

/-- From one scene to a later one, these commands were submitted. -/
def Scene.Submits (s : Scene) (commands : List Command) (t : Scene) : Prop :=
  submitted t.events = submitted s.events ++ commands

/-- What follows a command is submitted behind it. -/
theorem Scene.submits_afterCommand_iff {s t : Scene} {c : Command} {commands : List Command}
    {accepted : Bool} :
    (s.afterCommand c accepted).Submits commands t ↔ s.Submits (c :: commands) t := by
  simp [Submits, afterCommand]

/-- Nothing is submitted by drawing. -/
theorem Scene.Redrawn.submits {s t : Scene} (h : s.Redrawn t) : s.Submits [] t := by
  obtain ⟨shown, calls, rfl⟩ := h
  simp [Submits, afterCalls]

/-- From one scene to a later one, no more than the first of these commands were submitted. -/
def Scene.SubmitsAtMost (s : Scene) (commands : List Command) (t : Scene) : Prop :=
  ∃ done, done <+: commands ∧ s.Submits done t

/-- All of the commands are no more than all of them. -/
theorem Scene.Submits.atMost {s t : Scene} {commands : List Command} (h : s.Submits commands t) :
    s.SubmitsAtMost commands t := ⟨commands, List.prefix_refl _, h⟩

/-- What sends nothing may come after what sends. -/
theorem Scene.SubmitsAtMost.trans {s t u : Scene} {commands : List Command}
    (hst : s.SubmitsAtMost commands t) (htu : t.SubmitsAtMost [] u) :
    s.SubmitsAtMost commands u := by
  obtain ⟨done, hdone, ht⟩ := hst
  obtain ⟨more, hmore, hu⟩ := htu
  rw [List.prefix_nil.mp hmore, Submits, List.append_nil] at hu
  exact ⟨done, hdone, hu.trans ht⟩

namespace Act

variable {α β : Type} {a : Answers} {s : Scene} {commands : List Command}

/-- An act that sends some commands in their order. A fault ends it after some of them, the one that
was declined included. -/
def Sends (act : Act α) (commands : List Command) (a : Answers) (s : Scene) : Prop :=
  act.Ensures (fun _ t => s.Submits commands t) (fun _ t => s.SubmitsAtMost commands t) a s

/-! ### One rule for each kind of step -/

/-- An act that does nothing sends nothing. -/
@[simp] theorem sends_pure (x : α) : (pure x : Act α).Sends [] a s := by
  simp [Sends, Scene.Submits]

/-- A look at the panel sends nothing. -/
@[simp] theorem sends_panel_bind (next : Panel → Act β) :
    (panel >>= next).Sends commands a s ↔ (next s.panel).Sends commands a s :=
  ensures_panel_bind next

/-- A change of the panel sends nothing, and the rest starts from the changed panel. -/
@[simp] theorem sends_change_bind (f : Panel → Panel) (next : Unit → Act β) :
    (change f >>= next).Sends commands a s ↔
      (next ()).Sends commands a { s with panel := f s.panel } :=
  ensures_change_bind f next

/-- A change of the panel sends nothing. -/
@[simp] theorem sends_change (f : Panel → Panel) : (change f).Sends [] a s := by
  simp [Sends, Scene.Submits]

/-- Listing the files is not a command. -/
@[simp] theorem sends_listFiles_bind (next : Option (List String) → Act β) :
    (listFiles >>= next).Sends commands a s ↔ (next a.files).Sends commands a s :=
  ensures_listFiles_bind next

/-- Asking for a report is not a command. -/
@[simp] theorem sends_report_bind (next : Status → Act β) :
    (report >>= next).Sends commands a s ↔
      (next (s.panel.reportAt a s.looks)).Sends commands a { s with looks := s.looks + 1 } :=
  ensures_report_bind next

/-- A command is submitted, whatever the printer says to it. -/
@[simp] theorem sends_send (c : Command) : (send c).Sends [c] a s := by
  rw [Sends, ensures_send]
  exact ⟨fun _ => by simp [Scene.Submits, Scene.afterCommand],
    fun _ _ => ⟨[c], List.prefix_refl _, by simp [Scene.Submits, Scene.afterCommand]⟩⟩

/-- After a command that is accepted, the rest is sent. -/
theorem sends_send_bind {c : Command} {next : Unit → Act β}
    (h : (next ()).Sends commands a (s.afterCommand c true)) :
    (send c >>= next).Sends (c :: commands) a s := by
  rw [Sends, ensures_send_bind]
  constructor
  · intro _
    apply Ensures.mono h
    · intro _ t ht
      exact Scene.submits_afterCommand_iff.mp ht
    · rintro f t ⟨done, hdone, ht⟩
      exact ⟨c :: done, by simpa using hdone, Scene.submits_afterCommand_iff.mp ht⟩
  · intro r _
    exact ⟨[c], by simp, by simp [Scene.Submits, Scene.afterCommand]⟩

/-- An act that draws only sends nothing. -/
theorem Becomes.sends {act : Act α} {q : Panel} (h : act.Becomes q a s) : act.Sends [] a s := by
  apply Ensures.mono h
  · intro _ t ht
    exact ht.submits
  · rintro f t ⟨-, ht⟩
    exact ht.submits.atMost

/-- A drawing sends nothing. -/
@[simp] theorem sends_draw (d : Display.Drawing) : (draw d).Sends [] a s :=
  ((becomes_draw (q := s.panel) d).mpr rfl).sends

/-- Going to a screen sends nothing. -/
@[simp] theorem sends_goTo (screen : Screen) : (goTo screen).Sends [] a s :=
  ((becomes_goTo screen).mpr rfl).sends

/-- What sends nothing may come before what sends. -/
theorem Sends.bind {act : Act α} {next : α → Act β} (h : act.Sends [] a s)
    (hnext : ∀ x t, (next x).Sends commands a t) : (act >>= next).Sends commands a s := by
  rw [Sends, ensures_bind]
  apply Ensures.mono h
  · intro x t ht
    have hsame : submitted t.events = submitted s.events := by simpa [Scene.Submits] using ht
    have hrest : (next x).Sends commands a t := hnext x t
    simpa only [Sends, Scene.SubmitsAtMost, Scene.Submits, hsame] using hrest
  · rintro f t ⟨done, hdone, ht⟩
    exact ⟨done, hdone.trans (List.nil_prefix), ht⟩

/-- Opening a list sends nothing. -/
@[simp] theorem sends_openList (m : ListMenu) : (openList m).Sends [] a s := by
  simp [openList]

/-- Going back to a list sends nothing. -/
@[simp] theorem sends_backToList (m : ListMenu) (item : Nat) :
    (backToList m item).Sends [] a s := by
  simp [backToList]

/-- Going back to the main menu sends nothing. -/
@[simp] theorem sends_backToMainMenu (page : Nat) : (backToMainMenu page).Sends [] a s := by
  simp [backToMainMenu]

/-- Nothing is sent before an edit is accepted. -/
@[simp] theorem sends_beginEdit (field : Field) (initial : Int) (returnTo : Screen) (row : Nat) :
    (beginEdit field initial returnTo row).Sends [] a s := by
  simp [beginEdit]

/-- The notice for what is not available sends nothing. -/
@[simp] theorem sends_notAvailable : notAvailable.Sends [] a s := by
  simp [notAvailable]

/-- Nothing is sent before a question is answered. -/
@[simp] theorem sends_ask (action : PrintAction) : (ask action).Sends [] a s := by
  simp [ask]

/-! ### Menus -/

/-- The main menu sends nothing. -/
theorem sends_mainMenu {symbol : Symbol} : (mainMenu symbol).Sends [] a s := by
  simp only [mainMenu, sends_panel_bind]
  split
  · split <;> simp
  · split
    · unfold openPage
      split
      · simp [loadFiles, bind_assoc]
      · simp
      · simp
      · rw [sends_panel_bind]
        split <;> simp
    · simp

/-- Turning the knob on a list sends nothing. -/
theorem sends_listKey {m : ListMenu} {enter : Act Unit} {symbol : Symbol}
    (henter : enter.Sends commands a s) :
    (listKey m enter symbol).Sends (if symbol = .enter then commands else []) a s := by
  unfold listKey
  by_cases hturn : symbol.isTurn = true
  · have hother : symbol ≠ .enter := by
      rintro rfl
      contradiction
    rw [if_pos hturn, if_neg hother]
    simp only [turnList, sends_panel_bind, sends_change_bind]
    split <;> simp
  · rw [if_neg hturn]
    split
    · exact henter
    · simp

/-- A press on a list sends the commands of the entry that the cursor is on. -/
theorem sends_withEntry {α : Type} {m : ListMenu} {items : Features → List α}
    {act : α → Act Unit} {commandsOf : α → List Command}
    (hact : ∀ item, (act item).Sends (commandsOf item) a s) :
    (withEntry m items act).Sends (s.panel.entryCommands m items commandsOf) a s := by
  simp only [withEntry, sends_panel_bind, Panel.entryCommands]
  split
  · next hitem => simp [hitem]
  · next item hitem => simpa [hitem] using hact item

/-- A list whose entries send nothing. -/
theorem sends_withEntry_nil {α : Type} {m : ListMenu} {items : Features → List α}
    {act : α → Act Unit} (hact : ∀ item, (act item).Sends [] a s) :
    (withEntry m items act).Sends [] a s := by
  simp only [withEntry, sends_panel_bind]
  split
  · simp
  · exact hact _

/-- A press in the file browser starts the print of a file. -/
theorem sends_enterFiles : enterFiles.Sends s.panel.fileCommands a s := by
  simp only [enterFiles, sends_panel_bind, Panel.fileCommands]
  cases s.panel.places.files.position with
  | zero =>
    simp only [sends_change_bind]
    split <;> simp
  | succ index =>
    simp only [sends_change_bind]
    cases (s.panel.browser.select index).1 with
    | none => simp
    | some selected =>
      cases selected with
      | folder => simp
      | file path =>
        dsimp only [startPrint]
        exact sends_send_bind (by simp)

/-- Heating for a material sets hotend and bed, and the fan if there is one. -/
theorem sends_preheat {m : Material} :
    (preheat m).Sends (s.panel.settings.preheatCommands m) a s := by
  simp only [preheat, sends_panel_bind, Settings.preheatCommands]
  apply sends_send_bind
  apply sends_send_bind
  split <;> simp

/-- A press in the prepare menu sends the commands of its entry. -/
theorem sends_enterPrepare :
    enterPrepare.Sends
      (s.panel.entryCommands .prepare PrepareItem.list (·.commands s.panel.settings)) a s := by
  apply sends_withEntry
  intro item
  cases item with
  | back => simp [PrepareItem.commands]
  | move => exact sends_send_bind (by simp)
  | disableSteppers => exact sends_send _
  | home => exact sends_send_bind (by simp)
  | zOffset => simp [PrepareItem.commands]
  | preheatPla | preheatTpu => exact sends_preheat
  | cooldown => exact sends_send_bind (sends_send_bind (sends_send _))

/-- A press in the control menu sends nothing. -/
theorem sends_enterControl : enterControl.Sends [] a s := by
  apply sends_withEntry_nil
  intro item
  cases item <;> simp

/-- A press in the list of macros runs the macro that the cursor is on. -/
theorem sends_enterMisc : enterMisc.Sends s.panel.macroCommands a s := by
  simp only [enterMisc, sends_panel_bind, Panel.macroCommands]
  cases s.panel.places.misc.position with
  | zero => simp
  | succ index =>
    dsimp only
    cases s.panel.settings.macros[index]? with
    | none => simp
    | some m => exact sends_send _

/-- The page about the machine sends nothing. -/
theorem sends_info {symbol : Symbol} : (info symbol).Sends [] a s := by
  unfold info
  split
  · rw [sends_panel_bind]
    split <;> simp
  · simp

/-- A press in the motion menu sends nothing. -/
theorem sends_enterMotion : enterMotion.Sends [] a s := by
  apply sends_withEntry_nil
  intro item
  cases item <;> simp

/-- A key in an editor of the motion limits sends nothing. -/
theorem sends_motionEditor {symbol : Symbol} : (motionEditor symbol).Sends [] a s := by
  unfold motionEditor
  split <;> simp

/-- A press in the menu for tuning sends nothing. -/
theorem sends_enterTune : enterTune.Sends [] a s := by
  apply sends_withEntry_nil
  intro item
  cases item <;> simp

/-- A press in the menu of the axes sends nothing, even if the hotend is too cold. -/
theorem sends_enterAxes : enterAxes.Sends [] a s := by
  apply sends_withEntry_nil
  intro item
  cases item.axis? with
  | none => simp
  | some axis =>
    simp only [beginMove, sends_report_bind, sends_panel_bind]
    split
    · split <;> simp
    · simp

/-- A press in the temperature menu sends nothing. -/
theorem sends_enterTemperature : enterTemperature.Sends [] a s := by
  apply sends_withEntry_nil
  intro item
  cases item <;> simp

/-- A press in the menu of a preset sends nothing, unless the presets are saved. -/
theorem sends_enterPreset {m : Material} :
    (enterPreset m).Sends
      (s.panel.entryCommands (.preset m) PreheatItem.list (·.commands s.panel.settings)) a s := by
  apply sends_withEntry
  intro item
  cases item <;> simp [PreheatItem.commands]

/-! ### A print, popups, probing and edits -/

/-- Of the buttons, only the one that resumes a paused print sends its command at once. -/
theorem sends_pressPrintButton (button : Nat) :
    (pressPrintButton button).Sends
      (if button = 1 ∧ s.panel.print.paused then [.resume] else []) a s := by
  obtain _ | _ | button := button
  · simp [pressPrintButton]
  · rw [pressPrintButton, sends_panel_bind]
    cases s.panel.print.paused with
    | true => exact sends_send_bind (by simp)
    | false => exact sends_ask .pause
  · simp [pressPrintButton]

/-- The print screen sends the command of the button that is pressed. -/
theorem sends_printProcess {symbol : Symbol} (hscreen : s.panel.screen = .printProcess) :
    (printProcess symbol).Sends (if symbol = .enter then s.panel.pressCommands else []) a s := by
  simp only [printProcess, sends_panel_bind, Panel.pressCommands, hscreen]
  cases s.panel.print.completionShown with
  | true => by_cases henter : symbol = .enter <;> simp [henter]
  | false =>
    by_cases henter : symbol = .enter
    · have hturn : Symbol.enter.isTurn = false := rfl
      simpa [henter, hturn] using sends_pressPrintButton s.panel.places.print.position
    · simp only [henter, if_false, Bool.false_eq_true]
      split
      · split <;> simp
      · simp

/-- An answer sends the command that was asked for, if it is confirmed. -/
theorem sends_giveAnswer (hscreen : s.panel.screen = .printWindow) :
    giveAnswer.Sends s.panel.pressCommands a s := by
  simp only [giveAnswer, sends_panel_bind, sends_change_bind, Panel.pressCommands, hscreen]
  split
  · next hconfirmed haction =>
    simp only [hconfirmed, haction, if_true]
    exact sends_send_bind (by simp)
  · next hconfirmed haction =>
    simp only [hconfirmed, haction, if_true]
    exact sends_send_bind (by simp)
  · next hpause hstop =>
    -- The way out is chosen, or no question is open.
    have hnone : (if s.panel.places.confirm.position = 0 then
        (s.panel.print.action.map PrintAction.command).toList else []) = [] := by
      split
      · next hconfirmed =>
        cases haction : s.panel.print.action with
        | none => rfl
        | some action =>
          cases action with
          | pause => exact (hpause hconfirmed haction).elim
          | stop => exact (hstop hconfirmed haction).elim
      · rfl
    rw [hnone]
    exact sends_goTo _

/-- A question sends something only by the press that answers it. -/
theorem sends_printWindow {symbol : Symbol} (hscreen : s.panel.screen = .printWindow) :
    (printWindow symbol).Sends (if symbol = .enter then s.panel.pressCommands else []) a s := by
  unfold printWindow
  by_cases henter : symbol = .enter
  · have hturn : Symbol.enter.isTurn = false := rfl
    simpa [henter, hturn] using sends_giveAnswer hscreen
  · simp only [henter, if_false]
    split
    · simp only [turnAnswer, sends_panel_bind]
      split <;> simp
    · simp

/-- The notice that a function is missing sends nothing. -/
theorem sends_featureNotAvailable {symbol : Symbol} :
    (featureNotAvailable symbol).Sends [] a s := by
  unfold featureNotAvailable
  split <;> simp

/-- The warning of a cold hotend sends nothing. -/
theorem sends_tooCold {symbol : Symbol} : (tooCold symbol).Sends [] a s := by
  unfold tooCold
  split <;> simp

/-- A message popup sends nothing. -/
theorem sends_messagePopup {symbol : Symbol} : (messagePopup symbol).Sends [] a s := by
  unfold messagePopup
  split <;> simp

/-- The browser for pictograms sends nothing. -/
theorem sends_iconFinder {symbol : Symbol} : (iconFinder symbol).Sends [] a s := by
  unfold iconFinder
  split
  · simp only [sends_panel_bind]
    split <;> simp
  · split <;> simp

/-- The nozzle is moved if that is allowed. -/
theorem sends_moveProbe (allowed : Bool) (um : Int) :
    (moveProbe allowed um).Sends (if allowed then [.probeAdjust um] else []) a s := by
  unfold moveProbe
  cases allowed with
  | true => exact sends_send_bind (by simp)
  | false => simp

/-- Probing sends the moves of a turn, and a long press accepts the height. -/
theorem sends_manualProbe {symbol : Symbol} :
    (manualProbe symbol).Sends
      (s.panel.probeCommands ((s.panel.reportAt a s.looks).probe.getD 0) symbol) a s := by
  have hmove (allowed : Prop) [Decidable allowed] (um : Int) :
      (moveProbe allowed um).Sends (if allowed then [.probeAdjust um] else []) a
        { s with looks := s.looks + 1 } := by
    simpa using sends_moveProbe (decide allowed) um
  simp only [manualProbe, sends_report_bind, sends_panel_bind]
  cases symbol with
  | cw | fastCw | ccw | fastCcw => exact hmove _ _
  | enter => simp [Panel.probeCommands]
  | longEnter => exact sends_send_bind (by simp)
  | idle => exact sends_pure ()

/-- An effect sends its command, if it has one. -/
theorem sends_takeEffect (effect : EditEffect) :
    (takeEffect effect).Sends effect.commands a s := by
  cases effect with
  | command c => exact sends_send c
  | preset => simp [takeEffect, EditEffect.commands]

/-- An open edit sends its command by the press that accepts it. -/
theorem sends_valueEdit {symbol : Symbol} :
    (valueEdit symbol).Sends
      (if symbol = .enter then s.panel.edit.elim [] (·.effect.commands) else []) a s := by
  simp only [valueEdit_eq, sends_panel_bind]
  cases s.panel.edit with
  | none => simp
  | some e =>
    dsimp only [Option.elim_some]
    split
    · rw [acceptEdit, sends_change_bind, sends_panel_bind]
      exact (sends_draw _).bind fun _ _ => sends_takeEffect e.effect
    · split <;> simp

/-- A key sends the commands of its symbol. -/
theorem sends_handle (symbol : Symbol) :
    (handle s.panel.screen symbol).Sends
      (s.panel.commandsFor (s.panel.reportAt a s.looks) symbol) a s := by
  have hsilent {act : Act Unit} (hact : act.Sends [] a s) :
      act.Sends (if symbol = .enter then [] else []) a s := by
    rwa [ite_self]
  unfold Panel.commandsFor
  cases hscreen : s.panel.screen
  case manualProbe => exact sends_manualProbe
  case printProcess => exact sends_printProcess hscreen
  case printWindow => exact sends_printWindow hscreen
  all_goals simp only [reduceCtorEq, if_false, Panel.pressCommands, hscreen]
  case mainMenu => exact hsilent sends_mainMenu
  case selectFile => exact sends_listKey sends_enterFiles
  case prepare => exact sends_listKey sends_enterPrepare
  case control => exact sends_listKey sends_enterControl
  case misc => exact sends_listKey sends_enterMisc
  case axisMove => exact sends_listKey sends_enterAxes
  case temperature => exact sends_listKey sends_enterTemperature
  case motion => exact sends_listKey sends_enterMotion
  case info => exact hsilent sends_info
  case tune => exact sends_listKey sends_enterTune
  case plaPreheat | tpuPreheat => exact sends_listKey sends_enterPreset
  case featureNotAvailable => exact hsilent sends_featureNotAvailable
  case homing => exact hsilent (sends_pure ())
  case tooCold => exact hsilent sends_tooCold
  case messagePopup => exact hsilent sends_messagePopup
  case iconFinder => exact hsilent sends_iconFinder
  case maxSpeed | maxSpeedValue | maxAcceleration | maxAccelerationValue | maxJerk | maxJerkValue |
      step | stepValue =>
    exact hsilent sends_motionEditor
  all_goals exact sends_valueEdit

/-! ### Whole operations -/

/-- An act that sends no more than the first of some commands. -/
def SendsAtMost (act : Act α) (commands : List Command) (a : Answers) (s : Scene) : Prop :=
  act.Ensures (fun _ t => s.SubmitsAtMost commands t) (fun _ t => s.SubmitsAtMost commands t) a s

/-- An act that sends commands sends no more than these. -/
theorem Sends.atMost {act : Act α} (h : act.Sends commands a s) :
    act.SendsAtMost commands a s :=
  Ensures.mono h (fun _ _ ht => ht.atMost) fun _ _ ht => ht

/-- What sends nothing may come after what sends. -/
theorem SendsAtMost.bind {act : Act α} {next : α → Act β} (h : act.SendsAtMost commands a s)
    (hnext : ∀ x t, (next x).SendsAtMost [] a t) : (act >>= next).SendsAtMost commands a s := by
  rw [SendsAtMost, ensures_bind]
  apply Ensures.mono h
  · intro x t ht
    exact (hnext x t).mono (fun _ _ hu => ht.trans hu) fun _ _ hu => ht.trans hu
  · exact fun _ _ ht => ht

/-- Recovering from a fault sends nothing. -/
theorem SendsAtMost.recovering {act : Act Unit} (h : act.SendsAtMost commands a s) :
    (recovering act).SendsAtMost commands a s := by
  apply Ensures.recovering h
  · exact fun _ _ ht => ht
  · intro r t ht
    have hmessage : (showMessage ("Error: " ++ r.message)).Sends [] a t :=
      ((becomes_showMessage _).mpr rfl).sends
    exact hmessage.atMost.mono (fun _ _ hu => ht.trans hu) fun _ _ hu => ht.trans hu

/-- A key sends no more than the commands of its symbol. -/
theorem sendsAtMost_key (k : Key) :
    (key k).SendsAtMost
      (s.panel.commandsFor (s.panel.reportAt a s.looks) (s.panel.symbolOf k)) a s := by
  obtain ⟨shown, -, hkey⟩ := key_eq (a := a) (s := s) k
  let woken : Scene := ({ s with panel := s.panel.awake }).afterCalls shown
    (if s.panel.dimmed then 1 else 0)
  have hhandle : (recovering (handle s.panel.screen (s.panel.symbolOf k))).SendsAtMost
      (s.panel.commandsFor (s.panel.reportAt a s.looks) (s.panel.symbolOf k)) a woken :=
    (sends_handle (s := woken) (s.panel.symbolOf k)).atMost.recovering
  have hwoken : submitted woken.events = submitted s.events := by
    simp [woken, Scene.afterCalls]
  unfold SendsAtMost Ensures Scene.SubmitsAtMost Scene.Submits at hhandle ⊢
  rwa [hkey, ← hwoken]

/-- The knob sends no more than the commands of the key that it delivers. -/
theorem sendsAtMost_keyOfKnob (decode : Knob → Option Key × Knob) :
    (keyOfKnob decode).SendsAtMost
      ((decode s.panel.knob).1.elim [] fun k =>
        s.panel.commandsFor (s.panel.reportAt a s.looks) (s.panel.symbolOf k)) a s := by
  let turned : Scene := { s with panel := { s.panel with knob := (decode s.panel.knob).2 } }
  unfold SendsAtMost Ensures
  rw [keyOfKnob_eq]
  cases (decode s.panel.knob).1 with
  | none => exact (sends_pure (a := a) (s := turned) ()).atMost
  | some k => exact sendsAtMost_key (s := turned) k

/-- Following a report sends nothing. -/
theorem sendsAtMost_hear : hear.SendsAtMost [] a s := by
  obtain ⟨t, p, ht, hdrawn⟩ := hear_draws (a := a) (s := s)
  rw [SendsAtMost, Ensures, ht]
  exact hdrawn.submits.atMost

end Act

namespace Panel

/-- The commands of the key that an operation delivers. -/
def commandsOf (p : Panel) (op : Operation) (a : Answers) : List Command :=
  (p.keyOf op).elim [] fun k => p.commandsFor (p.reportAt a 0) (p.symbolOf k)

/-- An operation sends no more than the commands of its key. -/
theorem submitted_prefix (p : Panel) (op : Operation) (a : Answers) :
    submitted (p.perform op a).events <+: p.commandsOf op a := by
  have hact : op.act.SendsAtMost (p.commandsOf op a) a (.opening p) := by
    have hknob (decode : Knob → Option Key × Knob) (hdecode : (decode p.knob).1 = p.keyOf op) :
        (Act.keyOfKnob decode).SendsAtMost (p.commandsOf op a) a (.opening p) := by
      rw [commandsOf, ← hdecode]
      exact Act.sendsAtMost_keyOfKnob decode
    cases op with
    | start =>
      have hlight := (Act.becomes_draw (a := a) (s := .opening p) (q := p)
        [.light p.settings.screen.brightness]).mpr rfl
      apply Act.SendsAtMost.recovering
      exact hlight.sends.atMost.bind fun _ _ => (Act.sends_goTo _).atMost
    | key k => exact Act.sendsAtMost_key k
    | rotate r now => exact hknob (fun k => (some (k.rotate r now).1, (k.rotate r now).2)) rfl
    | sample x y now => exact hknob (·.sample x y now) rfl
    | button down now => exact hknob (·.button down now) rfl
    | poll now => exact hknob (·.poll now) rfl
    | tick now => exact (hknob (·.poll now) rfl).bind fun _ _ => Act.sendsAtMost_hear
    | message text => exact ((Act.becomes_showMessage text).mpr rfl).sends.atMost
    | iconFinder => exact (Act.sends_goTo _).atMost.recovering
  obtain ⟨done, hdone, ht⟩ := (perform_iff
    (h := fun t => (Scene.opening p).SubmitsAtMost (p.commandsOf op a) t) p op a).mpr hact
  have hsent : submitted (p.perform op a).events = done := ht
  rwa [hsent]

/-- An operation without commands sends nothing. -/
theorem submitted_eq_nil {p : Panel} {op : Operation} {a : Answers} (h : p.commandsOf op a = []) :
    submitted (p.perform op a).events = [] :=
  List.prefix_nil.mp (h ▸ p.submitted_prefix op a)

end Panel

/-! ### Each command from its screens -/

namespace Screen

/-- Whether a command may be sent from a screen. What an edit sends may come from any editor. -/
def sends (s : Screen) : Command → Bool
  | .hotendTarget _ | .bedTarget _ | .fanSpeed _ => s = .prepare ∨ s.isEditor
  | .feedrate _ | .moveAxis .. | .zOffset _ => s.isEditor
  | .resetExtruder | .disableSteppers | .homeAll => s = .prepare
  | .startPrint _ => s = .selectFile
  | .pause | .cancel => s = .printWindow
  | .resume => s = .printProcess
  | .runMacro _ => s = .misc
  | .savePresets _ => s = .plaPreheat ∨ s = .tpuPreheat
  | .probeAdjust _ | .probeAccept => s = .manualProbe

/-- A screen from which these commands may be sent. -/
def SendsAll (s : Screen) (commands : List Command) : Prop := ∀ c ∈ commands, s.sends c

/-- Any screen may send nothing. -/
@[simp] theorem sendsAll_nil (s : Screen) : s.SendsAll [] := fun _ hc => nomatch hc

end Screen

namespace Panel

/-- The commands of probing come from the screen for probing. -/
theorem sendsAll_probe (p : Panel) (um : Int) (symbol : Symbol) :
    Screen.manualProbe.SendsAll (p.probeCommands um symbol) := by
  cases symbol with
  | cw | fastCw | ccw | fastCcw =>
    simp only [probeCommands]
    split <;> simp [Screen.SendsAll, Screen.sends]
  | enter | longEnter | idle => simp [Screen.SendsAll, Screen.sends, probeCommands]

/-- A print is started from the file browser. -/
theorem sendsAll_files (p : Panel) : Screen.selectFile.SendsAll p.fileCommands := by
  unfold fileCommands
  split
  · simp
  · split <;> simp [Screen.SendsAll, Screen.sends]

/-- A macro is run from the list of macros. -/
theorem sendsAll_macros (p : Panel) : Screen.misc.SendsAll p.macroCommands := by
  unfold macroCommands
  split
  · simp
  · next index _ => cases p.settings.macros[index]? <;> simp [Screen.SendsAll, Screen.sends]

/-- A list may send whatever all of its entries may send. -/
theorem sendsAll_entry {p : Panel} {screen : Screen} {α : Type} {m : ListMenu}
    {items : Features → List α} {commands : α → List Command}
    (h : ∀ item, screen.SendsAll (commands item)) :
    screen.SendsAll (p.entryCommands m items commands) := by
  unfold entryCommands
  cases (items p.settings.features)[(p.places.get m).position]? with
  | none => simp
  | some item => exact h item

/-- The commands of the prepare menu may come from there. -/
theorem sendsAll_prepare (s : Settings) (item : PrepareItem) :
    Screen.prepare.SendsAll (item.commands s) := by
  cases item with
  | preheatPla | preheatTpu =>
    simp only [PrepareItem.commands, Settings.preheatCommands]
    split <;> simp [Screen.SendsAll, Screen.sends]
  | back | move | disableSteppers | home | zOffset | cooldown =>
    simp [Screen.SendsAll, Screen.sends, PrepareItem.commands]

/-- The presets are saved from the menu of a preset. -/
theorem sendsAll_preset {screen : Screen} (hscreen : screen = .plaPreheat ∨ screen = .tpuPreheat)
    (s : Settings) (item : PreheatItem) : screen.SendsAll (item.commands s) := by
  cases item <;> simp [Screen.SendsAll, Screen.sends, PreheatItem.commands, hscreen]

/-- The command of an edit may come from any editor. -/
theorem sendsAll_edit (p : Panel) {screen : Screen} (heditor : screen.isEditor = true) :
    screen.SendsAll (p.edit.elim [] (·.effect.commands)) := by
  cases p.edit with
  | none => simp
  | some e =>
    simp only [Option.elim_some, Edit.effect]
    split <;> simp [Screen.SendsAll, Screen.sends, EditEffect.commands, heditor]

/-- The commands of a press may come from the screen that is up. -/
theorem sendsAll_press (p : Panel) : p.screen.SendsAll p.pressCommands := by
  unfold pressCommands
  cases p.screen
  case selectFile => exact p.sendsAll_files
  case prepare => exact sendsAll_entry (sendsAll_prepare _)
  case misc => exact p.sendsAll_macros
  case plaPreheat => exact sendsAll_entry (sendsAll_preset (.inl rfl) _)
  case tpuPreheat => exact sendsAll_entry (sendsAll_preset (.inr rfl) _)
  case printProcess =>
    dsimp only
    split <;> simp [Screen.SendsAll, Screen.sends]
  case printWindow =>
    dsimp only
    split
    · intro c hc
      obtain ⟨action, -, rfl⟩ : ∃ action, p.print.action = some action ∧ action.command = c := by
        simpa using hc
      cases action <;> rfl
    · simp
  case moveX | moveY | moveZ | extruder | hotendTemp | zOffset | bedTemp | fanSpeed | printSpeed =>
    exact p.sendsAll_edit rfl
  all_goals exact Screen.sendsAll_nil _

/-- A command comes from one of its screens. -/
theorem sends_of_mem {p : Panel} {r : Status} {symbol : Symbol} {c : Command}
    (h : c ∈ p.commandsFor r symbol) : p.screen.sends c := by
  unfold commandsFor at h
  split at h
  · next hscreen =>
    rw [hscreen]
    exact p.sendsAll_probe _ _ c h
  · split at h
    · exact p.sendsAll_press c h
    · contradiction

/-! ### Few commands, in the right place -/

/-- Screens on which nothing is ever sent. -/
def silentScreens : List Screen :=
  [.mainMenu, .control, .info, .motion, .homing, .messagePopup, .featureNotAvailable, .tooCold,
    .iconFinder, .axisMove, .temperature, .tune, .maxSpeed, .maxSpeedValue, .maxAcceleration,
    .maxAccelerationValue, .maxJerk, .maxJerkValue, .step, .stepValue]

/-- Nothing can be sent: the screen is silent, or the notice of the finished print is up. -/
def Silent (p : Panel) : Prop :=
  p.screen ∈ silentScreens ∨ p.screen = .printProcess ∧ p.print.completionShown = true

/-- The prepare menu is on an entry that heats or cools. -/
def OnHeating (p : Panel) : Prop :=
  p.screen = .prepare ∧ ∃ item ∈ [PrepareItem.preheatPla, .preheatTpu, .cooldown],
    (PrepareItem.list p.settings.features)[p.places.prepare.position]? = some item

variable {p : Panel} {r : Status}

/-- A silent panel has no commands for any symbol. -/
theorem commandsFor_of_silent (h : p.Silent) (symbol : Symbol) : p.commandsFor r symbol = [] := by
  obtain hscreen | ⟨hscreen, hshown⟩ := h
  · have hpress : p.pressCommands = [] := by
      unfold pressCommands
      cases hp : p.screen <;> simp_all [silentScreens]
    have hother : p.screen ≠ .manualProbe := by
      intro hp
      simp [hp, silentScreens] at hscreen
    simp [commandsFor, hpress, hother]
  · simp [commandsFor, pressCommands, hscreen, hshown]

/-- A press in the file browser sends one command at most. -/
theorem fileCommands_length (p : Panel) : p.fileCommands.length ≤ 1 := by
  unfold fileCommands
  split
  · simp
  · split <;> simp

/-- A press in the list of macros sends one command at most. -/
theorem macroCommands_length (p : Panel) : p.macroCommands.length ≤ 1 := by
  unfold macroCommands
  split
  · simp
  · next index _ => cases p.settings.macros[index]? <;> simp

/-- A press in the menu of a preset sends one command at most. -/
theorem saveCommands_length (p : Panel) (m : ListMenu) :
    (p.entryCommands m PreheatItem.list (·.commands p.settings)).length ≤ 1 := by
  unfold entryCommands
  cases (PreheatItem.list p.settings.features)[(p.places.get m).position]? with
  | none => simp
  | some item => cases item <;> simp [PreheatItem.commands]

/-- Accepting an edit sends one command at most. -/
theorem effectCommands_length (p : Panel) :
    (p.edit.elim [] (·.effect.commands)).length ≤ 1 := by
  cases p.edit with
  | none => simp
  | some e =>
    dsimp only [Option.elim_some]
    cases e.effect <;> simp [EditEffect.commands]

/-- Of the entries of the prepare menu, only those for heating send more than one command. -/
theorem prepareCommands_length (hscreen : p.screen = .prepare) :
    (p.entryCommands .prepare PrepareItem.list (·.commands p.settings)).length ≤ 1 ∨
      p.OnHeating ∧
        (p.entryCommands .prepare PrepareItem.list (·.commands p.settings)).length ≤ 3 := by
  have hheats (m : Material) : (p.settings.preheatCommands m).length ≤ 3 := by
    unfold Settings.preheatCommands
    dsimp only
    split <;> simp
  unfold entryCommands
  cases hitem : (PrepareItem.list p.settings.features)[(p.places.get .prepare).position]? with
  | none => exact .inl (by simp)
  | some item =>
    have hon (h : item ∈ [PrepareItem.preheatPla, .preheatTpu, .cooldown]) : p.OnHeating :=
      ⟨hscreen, item, h, hitem⟩
    cases item with
    | preheatPla => exact .inr ⟨hon (by decide), hheats .pla⟩
    | preheatTpu => exact .inr ⟨hon (by decide), hheats .tpu⟩
    | cooldown => exact .inr ⟨hon (by decide), by simp [PrepareItem.commands]⟩
    | back | move | disableSteppers | home | zOffset => exact .inl (by simp [PrepareItem.commands])

/-- A press sends one command at most, unless it heats or cools. -/
theorem pressCommands_length (p : Panel) :
    p.pressCommands.length ≤ 1 ∨ p.OnHeating ∧ p.pressCommands.length ≤ 3 := by
  unfold pressCommands
  cases hscreen : p.screen
  case selectFile => exact .inl p.fileCommands_length
  case prepare => exact prepareCommands_length hscreen
  case misc => exact .inl p.macroCommands_length
  case plaPreheat | tpuPreheat => exact .inl (p.saveCommands_length _)
  case printProcess =>
    dsimp only
    split <;> simp
  case printWindow =>
    left
    dsimp only
    split
    · cases p.print.action <;> simp
    · simp
  case moveX | moveY | moveZ | extruder | hotendTemp | zOffset | bedTemp | fanSpeed | printSpeed =>
    exact .inl p.effectCommands_length
  all_goals exact .inl (by simp)

/-- Turning the knob moves the nozzle at most, while the bed is probed. -/
theorem commandsFor_turn {symbol : Symbol} (h : symbol.isTurn = true) :
    p.commandsFor r symbol = [] ∨ p.screen = .manualProbe ∧
      p.commandsFor r symbol =
        [.probeAdjust (if symbol.isCw then -p.probeStep else p.probeStep)] := by
  by_cases hscreen : p.screen = .manualProbe
  · unfold commandsFor
    rw [if_pos hscreen]
    cases symbol with
    | cw | fastCw | ccw | fastCcw =>
      simp only [probeCommands]
      split
      · exact .inr ⟨hscreen, rfl⟩
      · exact .inl rfl
    | enter | longEnter | idle => contradiction
  · have hother : symbol ≠ .enter := by
      rintro rfl
      contradiction
    exact .inl (commandsFor_of_ne hscreen r hother)

/-- A long press accepts the height at most, while the bed is probed. -/
theorem commandsFor_longEnter (p : Panel) (r : Status) :
    p.commandsFor r .longEnter = [] ∨
      p.screen = .manualProbe ∧ p.commandsFor r .longEnter = [.probeAccept] := by
  by_cases hscreen : p.screen = .manualProbe
  · exact .inr ⟨hscreen, if_pos hscreen⟩
  · exact .inl (commandsFor_of_ne hscreen r (by decide))

/-- A press sends one command at most, and up to three on the entries for heating. -/
theorem commandsFor_enter_length (p : Panel) (r : Status) :
    (p.commandsFor r .enter).length ≤ 1 ∨
      p.OnHeating ∧ (p.commandsFor r .enter).length ≤ 3 := by
  by_cases hscreen : p.screen = .manualProbe
  · exact .inl (by simp [commandsFor, hscreen, probeCommands])
  · rw [commandsFor_enter hscreen]
    exact p.pressCommands_length

/-- Where one command may be sent, nothing or that command has been sent. -/
theorem nothing_or_one {sent commands : List Command} {place : Prop} {c : Command}
    (hsent : sent <+: commands) (h : commands = [] ∨ place ∧ commands = [c]) :
    sent = [] ∨ place ∧ sent = [c] := by
  obtain rfl | ⟨hplace, rfl⟩ := h
  · exact .inl (List.prefix_nil.mp hsent)
  · obtain hnone | ⟨rest, hrest, hnil⟩ := List.prefix_cons_iff.mp hsent
    · exact .inl hnone
    · rw [List.prefix_nil.mp hnil] at hrest
      exact .inr ⟨hplace, hrest⟩

/-- Only a key sends commands, and only in the right place. Turning the knob moves the nozzle by
the chosen step while the bed is probed, down if clockwise, and a long click accepts the height
then. A click sends one command at most, or three for an entry that heats or cools. Nothing at all
is sent from a silent screen or from under the notice of a finished print. -/
theorem perform_sends (p : Panel) (op : Operation) (a : Answers) :
    let sent := submitted (p.perform op a).events
    (match p.keyOf op with
      | none => sent = []
      | some .up | some .fastUp =>
        sent = [] ∨ p.screen = .manualProbe ∧ sent = [.probeAdjust p.probeStep]
      | some .down | some .fastDown =>
        sent = [] ∨ p.screen = .manualProbe ∧ sent = [.probeAdjust (-p.probeStep)]
      | some .longClick => sent = [] ∨ p.screen = .manualProbe ∧ sent = [.probeAccept]
      | some .click => sent.length ≤ 1 ∨ p.OnHeating ∧ sent.length ≤ 3) ∧
      (p.Silent → sent = []) := by
  intro sent
  have hsent : sent <+: p.commandsOf op a := p.submitted_prefix op a
  unfold commandsOf at hsent
  constructor
  · cases hkey : p.keyOf op with
    | none =>
      rw [hkey] at hsent
      exact List.prefix_nil.mp hsent
    | some k =>
      rw [hkey, Option.elim_some] at hsent
      have hmoves (h : (Symbol.ofKey k).isTurn = true) :=
        nothing_or_one hsent
          (commandsFor_turn (r := p.reportAt a 0) ((p.symbolOf_isTurn k).trans h))
      rw [symbolOf_isCw] at hmoves
      cases k with
      | click =>
        rw [symbolOf_click] at hsent
        obtain hlength | ⟨hheats, hlength⟩ := p.commandsFor_enter_length (p.reportAt a 0)
        · exact .inl (Nat.le_trans hsent.length_le hlength)
        · exact .inr ⟨hheats, Nat.le_trans hsent.length_le hlength⟩
      | longClick =>
        rw [symbolOf_longClick] at hsent
        exact nothing_or_one hsent (p.commandsFor_longEnter _)
      | up | fastUp | down | fastDown => exact hmoves rfl
  · intro hsilent
    simp only [commandsFor_of_silent hsilent] at hsent
    cases hkey : p.keyOf op <;> rw [hkey] at hsent <;> exact List.prefix_nil.mp hsent

end Panel

end PrinterPanel
