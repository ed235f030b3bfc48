import Mathlib.Data.List.Induction
import PrinterPanel.Proofs.Commands
import PrinterPanel.Proofs.Navigation

/-!
# The question whether to pause or to stop

A print is paused or given up only by a click that answers a question. The question is asked by a
click on one of the buttons of the print screen, it begins on the way out, and it is forgotten as
soon as another screen comes up. So the answer is given by the turns of the knob since the question
was asked, and by the last of them.
-/

namespace PrinterPanel

open Menu

/-- The button of the print screen that asks a question. -/
def PrintAction.button : PrintAction → Nat
  | pause => 1
  | stop => 2

namespace Panel

variable {p : Panel} {r : Status}

/-! ### The question that is asked -/

/-- The question that is asked and the answer that is chosen, while their screen is up. -/
def question (p : Panel) : Option (Option PrintAction × Cursor) :=
  if p.screen = .printWindow then some (p.print.action, p.places.confirm) else none

/-- The question that is asked after a press on a button of the print screen. -/
def asksFor (p : Panel) (button : Nat) : Option (Option PrintAction × Cursor) :=
  match button with
  | 0 => none
  | 1 => if p.print.paused then none else some (some .pause, ⟨1⟩)
  | _ => some (some .stop, ⟨1⟩)

/-- The question that is asked after a symbol. -/
def questionAfter (p : Panel) (symbol : Symbol) : Option (Option PrintAction × Cursor) :=
  match p.screen with
  | .printProcess =>
    if p.print.completionShown = false ∧ symbol = .enter then p.asksFor p.places.print.position
    else none
  | .printWindow =>
    if symbol.isTurn then some (p.print.action, p.places.confirm.step symbol.isCw 2)
    else if symbol = .enter then none
    else p.question
  | _ => none

/-- If a question is asked, it is the given one. -/
structure AsksAtMost (c : Option (Option PrintAction × Cursor)) (p : Panel) : Prop where
  caller : p.CallerFits
  question : p.question = none ∨ p.question = c

/-- Where no question is up, none is asked. -/
theorem question_of_ne (h : p.screen ≠ .printWindow) : p.question = none := if_neg h

/-- Where a question is up, it is about its action, and an answer is chosen. -/
theorem question_of_eq (h : p.screen = .printWindow) :
    p.question = some (p.print.action, p.places.confirm) := if_pos h

/-- Reports and messages put the question away or leave it as it is. -/
theorem persists_asksAtMost (c : Option (Option PrintAction × Cursor)) :
    Persists (AsksAtMost c) where
  attends latch knob idleTicks dimmed h hlatch :=
    ⟨persists_callerFits.attends latch knob idleTicks dimmed h.caller hlatch, h.question⟩
  hears _ h := ⟨persists_callerFits.hears _ h.caller, h.question⟩
  warns {p} text h := by
    refine ⟨persists_callerFits.warns text h.caller, ?_⟩
    obtain hsame | hshown := p.withMessage_cases text
    · rw [hsame]
      exact h.question
    · exact .inl (question_of_ne (by simp [hshown]))
  follows {p r change} hchange h := by
    refine ⟨persists_callerFits.follows hchange h.caller, ?_⟩
    obtain hsame | hshown | ⟨-, hshown⟩ | ⟨-, hforced⟩ := shift_of_mem hchange p
    · have hquestion : (change p).question = p.question := by
        unfold question
        rw [hsame.screen, hsame.action, hsame.places]
      rw [hquestion]
      exact h.question
    · exact .inl (question_of_ne (by simp [hshown]))
    · exact .inl (question_of_ne (by simp [hshown]))
    · -- No question is forced up, and an edit that is put away leads to a list.
      refine .inl (question_of_ne fun hwindow => ?_)
      obtain hscreen | ⟨e, he, hscreen⟩ := hforced
      · simp [hwindow] at hscreen
      · exact absurd (hscreen.symm.trans hwindow)
          (h.caller.edits.returnTo_ne (by decide) e he)
  browses h := ⟨persists_callerFits.browses h.caller, .inl (question_of_ne (by simp))⟩

end Panel

namespace Act

open Panel

variable {a : Answers} {s : Scene}

/-! ### What a key makes of the question -/

/-- A question is put up with the answer that cancels it. -/
theorem leaves_question_ask (action : PrintAction) :
    (ask action).Leaves (·.question = some (some action, ⟨1⟩)) a s := by
  simp [ask, question]

/-- A button of the print screen asks its question or none. -/
theorem leaves_question_press (hscreen : s.panel.screen = .printProcess) (button : Nat) :
    (pressPrintButton button).Leaves
      (fun q => q.question = none ∨ q.question = s.panel.asksFor button) a s := by
  have hasks (action : PrintAction) : (ask action).Leaves
      (fun q => q.question = none ∨ q.question = some (some action, ⟨1⟩)) a s :=
    (leaves_question_ask action).mono (fun _ _ ht => .inr ht) fun _ _ ht => .inr ht
  obtain _ | _ | button := button
  · simp [pressPrintButton, question]
  · rw [pressPrintButton, leaves_bind, ensures_panel, asksFor]
    cases s.panel.print.paused with
    | true => simp [question, hscreen]
    | false => exact hasks .pause
  · exact hasks .stop

/-- A key on the print screen asks the question of a button or none. -/
theorem leaves_question_printProcess {symbol : Symbol} (hscreen : s.panel.screen = .printProcess) :
    (printProcess symbol).Leaves
      (fun q => q.question = none ∨ q.question = s.panel.questionAfter symbol) a s := by
  simp only [printProcess, leaves_bind, ensures_panel, questionAfter, hscreen]
  cases hshown : s.panel.print.completionShown with
  | true => by_cases henter : symbol = .enter <;> simp [henter, question, hscreen]
  | false =>
    by_cases henter : symbol = .enter
    · have hturn : Symbol.enter.isTurn = false := rfl
      simpa [henter, hturn] using leaves_question_press hscreen s.panel.places.print.position
    · simp only [henter, if_false, Bool.false_eq_true]
      split
      · split <;> simp [question, hscreen]
      · simp [question, hscreen]

/-- An answer takes the question away. -/
theorem leaves_question_giveAnswer : giveAnswer.Leaves (·.question = none) a s := by
  simp only [giveAnswer, leaves_bind, ensures_panel, ensures_change]
  split <;> simp [question]

/-- A key on a question takes it away or turns its answer. -/
theorem leaves_question_printWindow {symbol : Symbol} (hscreen : s.panel.screen = .printWindow) :
    (printWindow symbol).Leaves
      (fun q => q.question = none ∨ q.question = s.panel.questionAfter symbol) a s := by
  unfold printWindow
  simp only [questionAfter, hscreen]
  by_cases hturn : symbol.isTurn = true
  · simp only [hturn, if_true, turnAnswer, leaves_bind, ensures_panel]
    split
    · simp [question, hscreen]
    · next hsame =>
      have hstays : s.panel.places.confirm.step symbol.isCw 2 = s.panel.places.confirm :=
        Classical.not_not.mp hsame
      simp [question, hscreen, hstays]
  · simp only [hturn]
    by_cases henter : symbol = .enter
    · simp only [henter, if_true]
      exact leaves_question_giveAnswer.mono (fun _ _ ht => .inl ht) fun _ _ ht => .inl ht
    · simp [henter]

/-- Whatever screen is up, a key leaves no question but the one that it asks or turns. -/
theorem leaves_question_handle (h : s.panel.CallerFits) (symbol : Symbol) :
    (handle s.panel.screen symbol).Leaves
      (fun q => q.question = none ∨ q.question = s.panel.questionAfter symbol) a s := by
  by_cases hprint : s.panel.screen = .printProcess
  · rw [hprint]
    exact leaves_question_printProcess hprint
  · by_cases hwindow : s.panel.screen = .printWindow
    · rw [hwindow]
      exact leaves_question_printWindow hwindow
    · have hnone (q : Panel) (hq : q.showing ∈ s.panel.exits) : q.question = none := by
        refine question_of_ne fun hup => ?_
        obtain hscreen | hscreen := h.screen_of_exits hq hup
        · exact hwindow hscreen
        · exact hprint hscreen
      exact (leadsTo_handle symbol).mono (fun _ t ht => .inl (hnone t.panel ht))
        fun _ t ht => .inl (hnone t.panel ht)

end Act

/-- The answer that is chosen after a key. -/
def answerAfter (answer : Cursor) (k : Key) : Cursor :=
  if (Symbol.ofKey k).isTurn then answer.step (Symbol.ofKey k).isCw 2 else answer

namespace Panel

variable {p : Panel} {r : Status} {op : Operation} {a : Answers} {action : PrintAction}

/-- After an operation the question is that of its key, or none. -/
theorem Reachable.question_perform (h : p.Reachable) (hop : op ≠ .start) :
    (p.perform op a).panel.question = none ∨
      (p.perform op a).panel.question =
        (p.keyOf op).elim p.question fun k => p.questionAfter (p.symbolOf k) := by
  let c := (p.keyOf op).elim p.question fun k => p.questionAfter (p.symbolOf k)
  have hkey (k : Key) (hk : p.keyOf op = some k) (s : Scene) (knob : Knob)
      (hs : s.panel = { p.awake with knob := knob }) (_ : s.looks = 0) :
      (Act.handle p.screen (p.symbolOf k)).Leaves (AsksAtMost c) a s := by
    have hcaller : s.panel.CallerFits := by
      rw [hs]
      exact persists_callerFits.awake h.callerFits knob
    have hc : s.panel.questionAfter (p.symbolOf k) = c := by
      simp only [c, hk, Option.elim_some, hs]
      rfl
    have hscreen : s.panel.screen = p.screen := by rw [hs]; rfl
    have hboth := (Act.callerFits_handle (a := a) hcaller (p.symbolOf k)).and
      (Act.leaves_question_handle hcaller (p.symbolOf k))
    rw [hc, hscreen] at hboth
    exact hboth.mono (fun _ _ ht => ⟨ht.1, ht.2⟩) fun _ _ ht => ⟨ht.1, ht.2⟩
  have hnone (hk : p.keyOf op = none) : p.AsksAtMost c :=
    ⟨h.callerFits, .inr (by simp only [c, hk, Option.elim_none])⟩
  exact ((persists_asksAtMost c).perform (absurd · hop) hkey hnone).question

/-- A press on the button of a question, on the print screen. -/
structure Opens (p : Panel) (action : PrintAction) (op : Operation) : Prop where
  screen : p.screen = .printProcess
  button : p.places.print.position = action.button
  click : p.keyOf op = some .click

/-- A question that is asked is up. -/
theorem question_eq_some {asked : Option PrintAction × Cursor} (h : p.question = some asked) :
    p.screen = .printWindow ∧ asked = (p.print.action, p.places.confirm) := by
  unfold question at h
  split at h
  · next hup => exact ⟨hup, (Option.some.inj h).symm⟩
  · contradiction

/-- A question is asked by its button, and begins on the way out. -/
theorem asksFor_eq_some {button : Nat} {asked : Option PrintAction × Cursor}
    (h : p.asksFor button = some asked) (hbutton : button < Act.printButtonCount) :
    ∃ action : PrintAction, button = action.button ∧ asked = (some action, ⟨1⟩) := by
  unfold asksFor at h
  split at h
  · contradiction
  · split at h
    · contradiction
    · cases h
      exact ⟨.pause, rfl, rfl⟩
  · next hzero hone =>
    have htwo : button = 2 := by
      have hne : button ≠ 0 := fun h => hzero h
      have hne' : button ≠ 1 := fun h => hone h
      have hlt : button < 3 := hbutton
      omega
    cases h
    exact ⟨.stop, htwo, rfl⟩

/-- After a key a question is one that its button has just asked, or the one that was up before with
the answer that the key leads to. -/
theorem questionAfter_eq_some {k : Key} {asked : Option PrintAction × Cursor}
    (h : p.questionAfter (p.symbolOf k) = some asked)
    (hbutton : p.places.print.position < Act.printButtonCount) :
    (∃ action : PrintAction, p.screen = .printProcess ∧
        p.places.print.position = action.button ∧ k = .click ∧ asked = (some action, ⟨1⟩)) ∨
      p.screen = .printWindow ∧ asked = (p.print.action, answerAfter p.places.confirm k) := by
  unfold questionAfter at h
  split at h
  · next hscreen =>
    split at h
    · next hpressed =>
      obtain ⟨action, hon, hasked⟩ := asksFor_eq_some h hbutton
      exact .inl ⟨action, hscreen, hon, symbolOf_eq_enter hpressed.2, hasked⟩
    · contradiction
  · next hscreen =>
    right
    rw [symbolOf_isTurn, symbolOf_isCw] at h
    unfold answerAfter
    split at h
    · next hturn =>
      rw [if_pos hturn]
      exact ⟨hscreen, (Option.some.inj h).symm⟩
    · next hturn =>
      split at h
      · contradiction
      · rw [if_neg hturn]
        exact question_eq_some h
  · contradiction

/-- A question is up if it has just been asked, or if it was up before. -/
theorem Reachable.window_cases (h : p.Reachable) (hop : op ≠ .start)
    (hup : (p.perform op a).panel.screen = .printWindow) :
    (∃ action, p.Opens action op ∧ (p.perform op a).panel.print.action = some action ∧
      (p.perform op a).panel.places.confirm = ⟨1⟩) ∨
    (p.screen = .printWindow ∧ (p.perform op a).panel.print.action = p.print.action ∧
      (p.perform op a).panel.places.confirm =
        (p.keyOf op).toList.foldl answerAfter p.places.confirm) := by
  have hquestion := h.question_perform (a := a) hop
  rw [question_of_eq hup] at hquestion
  have hasked := (hquestion.resolve_left (by simp)).symm
  cases hk : p.keyOf op with
  | none =>
    rw [hk, Option.elim_none] at hasked
    obtain ⟨hwindow, hsame⟩ := question_eq_some hasked
    exact .inr ⟨hwindow, Prod.mk.inj hsame⟩
  | some k =>
    rw [hk, Option.elim_some] at hasked
    obtain ⟨action, hscreen, hbutton, rfl, hnew⟩ | ⟨hwindow, hsame⟩ :=
      questionAfter_eq_some hasked h.placed.print
    · exact .inl ⟨action, ⟨hscreen, hbutton, hk⟩, Prod.mk.inj hnew⟩
    · exact .inr ⟨hwindow, Prod.mk.inj hsame⟩

/-! ### The answer -/

/-- A print is paused or given up by a press that confirms its question. -/
theorem confirmed_of_command_mem {symbol : Symbol} (h : action.command ∈ p.commandsFor r symbol) :
    symbol = .enter ∧ p.screen = .printWindow ∧ p.places.confirm.position = 0 ∧
      p.print.action = some action := by
  have hwindow : p.screen = .printWindow := by
    have hsends := sends_of_mem h
    cases action <;> simpa [PrintAction.command, Screen.sends] using hsends
  simp only [commandsFor, hwindow, reduceCtorEq, if_false] at h
  split at h
  · next henter =>
    simp only [pressCommands, hwindow] at h
    split at h
    · next hconfirmed =>
      obtain ⟨asked, hasked, hcommand⟩ : ∃ asked, p.print.action = some asked ∧
          asked.command = action.command := by simpa using h
      have hsame : asked = action := by
        cases asked <;> cases action <;> first | rfl | contradiction
      exact ⟨henter, hwindow, hconfirmed, hsame ▸ hasked⟩
    · contradiction
  · contradiction

end Panel

/-! ### The history of a question -/

/-- The last turn of the knob was counter-clockwise. -/
def Confirms (keys : List Key) : Prop :=
  ∃ before k later, keys = before ++ k :: later ∧ (Symbol.ofKey k).isCcw = true ∧
    ∀ other ∈ later, (Symbol.ofKey other).isTurn = false

/-- The answer is to confirm after a counter-clockwise turn, and as before after what is no turn. -/
theorem confirms_concat (keys : List Key) (k : Key) :
    Confirms (keys ++ [k]) ↔
      (Symbol.ofKey k).isCcw = true ∨ (Symbol.ofKey k).isTurn = false ∧ Confirms keys := by
  constructor
  · rintro ⟨before, last, later, hkeys, hccw, hlater⟩
    obtain rfl | ⟨rest, other, rfl⟩ := later.eq_nil_or_concat
    · obtain ⟨-, hlast⟩ := List.append_inj' hkeys rfl
      cases hlast
      exact .inl hccw
    · right
      have hsplit : keys ++ [k] = (before ++ last :: rest) ++ [other] := by simpa using hkeys
      obtain ⟨rfl, hlast⟩ := List.append_inj' hsplit rfl
      cases hlast
      exact ⟨hlater k (by simp), before, last, rest, rfl, hccw,
        fun x hx => hlater x (by simp [hx])⟩
  · rintro (hccw | ⟨hstill, before, last, later, rfl, hccw, hlater⟩)
    · exact ⟨keys, k, [], rfl, hccw, by simp⟩
    · refine ⟨before, last, later ++ [k], by simp, hccw, ?_⟩
      intro other hother
      obtain hother | rfl := by simpa using hother
      · exact hlater other hother
      · exact hstill

/-- Turning the knob leads to one answer or to the other, whichever was chosen before. -/
theorem answerAfter_position {answer : Cursor} (h : answer.position ≤ 1) (k : Key) :
    (answerAfter answer k).position =
      if (Symbol.ofKey k).isCcw then 0
      else if (Symbol.ofKey k).isTurn then 1 else answer.position := by
  have hback : (answer.step false 2).position = 0 := by
    simp [Cursor.step, Cursor.back]
    omega
  have hforward : (answer.step true 2).position = 1 := by
    simp only [Cursor.step, Cursor.forward, if_true]
    split
    · simp only
      omega
    · rfl
  cases k with
  | up | fastUp => exact hback
  | down | fastDown => exact hforward
  | click | longClick => rfl

/-- The answer is the one that the last turn of the knob has led to. -/
theorem answers_position (keys : List Key) :
    (keys.foldl answerAfter ⟨1⟩).position ≤ 1 ∧
      ((keys.foldl answerAfter ⟨1⟩).position = 0 ↔ Confirms keys) := by
  induction keys using List.reverseRecOn with
  | nil => simp [Confirms]
  | append_singleton keys k ih =>
    obtain ⟨hrange, hanswer⟩ := ih
    rw [List.foldl_append, List.foldl_cons, List.foldl_nil, answerAfter_position hrange,
      confirms_concat, ← hanswer]
    cases k <;> simp [Symbol.ofKey, Symbol.isCcw, Symbol.isTurn, Symbol.isCw, hrange]

namespace Panel

variable {p : Panel} {action : PrintAction} {keys : List Key}

/-- The keys that a run delivers. -/
def keysOf (p : Panel) : List (Operation × Answers) → List Key
  | [] => []
  | (op, a) :: rest => (p.keyOf op).toList ++ (p.perform op a).panel.keysOf rest

/-- A run in two parts is the second part after the first. -/
theorem run_append (p : Panel) (first second : List (Operation × Answers)) :
    (p.run (first ++ second)).1 = ((p.run first).1.run second).1 := by
  induction first generalizing p with
  | nil => rfl
  | cons x rest ih => exact ih (p.perform x.1 x.2).panel

/-- The events of a run in two parts come one after the other. -/
theorem run_append_events (p : Panel) (first second : List (Operation × Answers)) :
    (p.run (first ++ second)).2 = (p.run first).2 ++ ((p.run first).1.run second).2 := by
  induction first generalizing p with
  | nil => rfl
  | cons x rest ih => simp only [List.cons_append, run, ih, List.append_assoc]

/-- The last operation of a run delivers its key last. -/
theorem keysOf_concat (p : Panel) (ops : List (Operation × Answers)) (x : Operation × Answers) :
    p.keysOf (ops ++ [x]) = p.keysOf ops ++ ((p.run ops).1.keyOf x.1).toList := by
  induction ops generalizing p with
  | nil => simp [keysOf, run]
  | cons y rest ih => simp only [List.cons_append, keysOf, ih, List.append_assoc, run]

/-- In a run, a question was asked by a press on its button, and it has been up ever since, while
these keys were delivered. -/
def Asked (p : Panel) (action : PrintAction) (ops : List (Operation × Answers))
    (keys : List Key) : Prop :=
  ∃ before opener later, ops = before ++ opener :: later ∧
    (p.run before).1.Opens action opener.1 ∧
    (∀ seen, seen <+: later → (p.run (before ++ opener :: seen)).1.screen = .printWindow) ∧
    keys = (p.run (before ++ [opener])).1.keysOf later

/-- A question that has just been asked. -/
theorem asked_of_opens {ops : List (Operation × Answers)} {x : Operation × Answers}
    (h : (p.run ops).1.Opens action x.1)
    (hup : (p.run (ops ++ [x])).1.screen = .printWindow) : p.Asked action (ops ++ [x]) [] := by
  refine ⟨ops, x, [], rfl, h, ?_, rfl⟩
  intro seen hseen
  rw [List.prefix_nil.mp hseen]
  exact hup

/-- A question that stays up. -/
theorem Asked.concat {ops : List (Operation × Answers)} (h : p.Asked action ops keys)
    {x : Operation × Answers} (hup : (p.run (ops ++ [x])).1.screen = .printWindow) :
    p.Asked action (ops ++ [x]) (keys ++ ((p.run ops).1.keyOf x.1).toList) := by
  obtain ⟨before, opener, later, rfl, hopens, hwindow, rfl⟩ := h
  refine ⟨before, opener, later ++ [x], by simp, hopens, ?_, ?_⟩
  · intro seen hseen
    obtain rfl | hseen := List.prefix_concat_iff.mp hseen
    · simpa using hup
    · exact hwindow seen hseen
  · have hsame : (p.run (before ++ opener :: later)).1 =
        ((p.run (before ++ [opener])).1.run later).1 := by
      rw [← run_append]
      simp
    rw [keysOf_concat, hsame]

/-- What came before a run does not matter to a question of that run. -/
theorem Asked.cons {op : Operation} {a : Answers} {ops : List (Operation × Answers)}
    (h : (p.perform op a).panel.Asked action ops keys) : p.Asked action ((op, a) :: ops) keys := by
  obtain ⟨before, opener, later, rfl, hopens, hwindow, rfl⟩ := h
  exact ⟨(op, a) :: before, opener, later, rfl, hopens, hwindow, rfl⟩

/-- Whenever a question is up, it was asked by its button, and its answer is the one that the turns
since then have led to. -/
theorem Reachable.run_question (h : p.Reachable) (hscreen : p.screen ≠ .printWindow)
    {ops : List (Operation × Answers)} (hops : ∀ x ∈ ops, x.1 ≠ .start)
    (hup : (p.run ops).1.screen = .printWindow) :
    ∃ action keys, p.Asked action ops keys ∧ (p.run ops).1.print.action = some action ∧
      (p.run ops).1.places.confirm = keys.foldl answerAfter ⟨1⟩ := by
  -- By induction on the last operation, since it either asks the question or finds it up.
  induction ops using List.reverseRecOn with
  | nil => exact absurd hup hscreen
  | append_singleton ops x ih =>
    have hstep : (p.run (ops ++ [x])).1 = ((p.run ops).1.perform x.1 x.2).panel :=
      p.run_append ops [x]
    have hreached : (p.run ops).1.Reachable := h.run fun y hy => hops y (by simp [hy])
    have hup' : ((p.run ops).1.perform x.1 x.2).panel.screen = .printWindow := hstep ▸ hup
    obtain ⟨action, hopens, haction, hconfirm⟩ | ⟨hwindow, haction, hconfirm⟩ :=
      hreached.window_cases (hops x (by simp)) hup'
    · rw [hstep]
      exact ⟨action, [], asked_of_opens hopens hup, haction, hconfirm⟩
    · obtain ⟨action, keys, hasked, haction', hconfirm'⟩ :=
        ih (fun y hy => hops y (by simp [hy])) hwindow
      refine ⟨action, _, hasked.concat hup, ?_, ?_⟩
      · rw [hstep, haction, haction']
      · rw [hstep, hconfirm, hconfirm', List.foldl_append]

/-- Switching the display on asks nothing. -/
theorem started_screen_ne (s : Settings) (width height : Nat) (a : Answers) :
    ((ofSettings s width height).perform .start a).panel.screen ≠ .printWindow := by
  have hnew : (ofSettings s width height).AsksAtMost none :=
    ⟨callerFits_ofSettings s width height, .inl rfl⟩
  have hstarted : ((ofSettings s width height).perform .start a).panel.AsksAtMost none :=
    (persists_asksAtMost none).perform (fun _ => hnew) (fun _ hk => nomatch hk) fun _ => hnew
  intro hup
  obtain hnone | hnone := hstarted.question <;>
    exact absurd (question_of_eq hup) (by simp [hnone])

/-- A question that is up in a whole run has its history in that run. -/
theorem started_question (s : Settings) (width height : Nat) (a : Answers)
    {ops : List (Operation × Answers)} (hops : ∀ x ∈ ops, x.1 ≠ .start) :
    let p := ofSettings s width height
    let q := (p.run ((.start, a) :: ops)).1
    q.screen = .printWindow → ∃ action keys, q.print.action = some action ∧
      p.Asked action ((.start, a) :: ops) keys ∧
      (q.places.confirm.position = 0 ↔ Confirms keys) := by
  intro p q hup
  obtain ⟨action, keys, hasked, haction, hconfirm⟩ :=
    (Reachable.started s width height a).run_question (started_screen_ne s width height a) hops hup
  have hanswer : q.places.confirm = keys.foldl answerAfter ⟨1⟩ := hconfirm
  refine ⟨action, keys, haction, hasked.cons, ?_⟩
  rw [hanswer]
  exact (answers_position keys).2

/-- A print is paused or given up only by a click that answers its question: the question was asked
by a click on its button and has been up ever since, and the last turn of the knob since then was
counter-clockwise. Whenever a question is up, it is that of the button by which it was asked, and a
click would confirm it just if the last turn of the knob since then was counter-clockwise. -/
theorem run_confirms (s : Settings) (width height : Nat) (a : Answers)
    (ops : List (Operation × Answers)) (hops : ∀ x ∈ ops, x.1 ≠ .start) :
    let p := ofSettings s width height
    (∀ before op b later, (.start, a) :: ops = before ++ (op, b) :: later →
      let q := (p.run before).1
      ∀ action : PrintAction, action.command ∈ submitted (q.perform op b).events →
        q.screen = .printWindow ∧ q.keyOf op = some .click ∧
          ∃ keys, p.Asked action before keys ∧ Confirms keys) ∧
    (∀ before later, (.start, a) :: ops = before ++ later →
      let q := (p.run before).1
      q.screen = .printWindow → ∃ action keys, q.print.action = some action ∧
        p.Asked action before keys ∧ (q.places.confirm.position = 0 ↔ Confirms keys)) := by
  intro p
  have hasks (before later : List (Operation × Answers))
      (hrun : (.start, a) :: ops = before ++ later) :
      let q := (p.run before).1
      q.screen = .printWindow → ∃ action keys, q.print.action = some action ∧
        p.Asked action before keys ∧ (q.places.confirm.position = 0 ↔ Confirms keys) := by
    intro q hup
    cases before with
    | nil => exact nomatch hup
    | cons first rest =>
      obtain ⟨rfl, rfl⟩ := List.cons.inj hrun
      exact started_question s width height a (fun x hx => hops x (by simp [hx])) hup
  refine ⟨?_, hasks⟩
  intro before op b later hrun q action hmem
  have hcommand : action.command ∈ q.commandsOf op b := (q.submitted_prefix op b).subset hmem
  unfold commandsOf at hcommand
  cases hk : q.keyOf op with
  | none =>
    rw [hk] at hcommand
    contradiction
  | some k =>
    rw [hk, Option.elim_some] at hcommand
    obtain ⟨henter, hup, hconfirmed, haction⟩ := confirmed_of_command_mem hcommand
    obtain ⟨asked, keys, hasked, hhistory, hanswer⟩ := hasks before ((op, b) :: later) hrun hup
    have hsame : asked = action := Option.some.inj (hasked.symm.trans haction)
    refine ⟨hup, ?_, keys, hsame ▸ hhistory, hanswer.mp hconfirmed⟩
    rw [symbolOf_eq_enter henter]

/-- A print is paused: its question is asked, the knob is turned back, and a click answers it. -/
theorem confirms_pausing :
    let printing := { Status.atRest with job := .printing }
    let a := { Answers.smooth with status := fun _ => some printing }
    let ops := [.tick 0, .key .down, .key .click, .key .up].map fun op => (op, a)
    (∀ x ∈ ops ++ [(.key .click, a)], x.1 ≠ .start) ∧
      PrintAction.pause.command ∈ submitted (((ofSettings .standard 240 320).run
        ((.start, a) :: ops)).1.perform (.key .click) a).events ∧
      ∃ keys, (ofSettings .standard 240 320).Asked .pause ((.start, a) :: ops) keys ∧
        Confirms keys := by
  intro printing a ops
  have hops : ∀ x ∈ ops ++ [(.key .click, a)], x.1 ≠ .start := by decide
  have hpaused : PrintAction.pause.command ∈ submitted (((ofSettings .standard 240 320).run
      ((.start, a) :: ops)).1.perform (.key .click) a).events := by
    decide +kernel
  obtain ⟨honly, -⟩ := run_confirms .standard 240 320 a (ops ++ [(.key .click, a)]) hops
  obtain ⟨-, -, hasked⟩ := honly ((.start, a) :: ops) (.key .click) a [] rfl .pause hpaused
  exact ⟨hops, hpaused, hasked⟩

end Panel

end PrinterPanel
