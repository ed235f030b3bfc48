import PrinterPanel.Proofs.Outcome

/-!
# What a report does to the panel

Bringing the panel in line with a report of the printer is a sequence of five changes, with
drawings between them. The changes are stated here as functions of the panel. A display call that
fails leaves the panel as it is after some of them; otherwise it is as after all of them.
-/

namespace PrinterPanel

open Display (Drawing)

/-! ### The changes -/

/-- What the panel keeps about a print after a look at its progress. The button to pause is left
alone under the notice of the finished print. -/
def PrintSession.following (print : PrintSession) (s : Status) : PrintSession :=
  if s.progress.isFinished && !print.finished then
    { print with finished := true, completionShown := true }
  else
    { print with
      finished := s.progress.isFinished
      paused := if print.completionShown then print.paused else s.isPaused }

namespace Panel

/-- The panel that a change of the printer brought to a screen. -/
def forced (p : Panel) (d : Demand) : Panel :=
  { p.abandonEdit with
    latch := .empty
    popupCaller := none
    screen := p.abandonEdit.screen.after d }

/-- The panel with a message, unless that is blank. -/
def withMessage (p : Panel) (text : String) : Panel :=
  if Text.allBlank text.toList then p
  else
    { p.abandonEdit with
      popupCaller :=
        if p.abandonEdit.screen = .messagePopup then p.abandonEdit.popupCaller
        else some p.abandonEdit.screen
      screen := .messagePopup }

/-- The panel at the start of a print. -/
def printStarted (p : Panel) : Panel :=
  { p with print := .fresh, places := { p.places with print := .first } }.forced .printStarted

/-- The panel after a look at the job. -/
def followingJob (s : Status) (p : Panel) : Panel :=
  let q := { p with lastJob := s.job }
  if s.job = p.lastJob then q
  else
    match s.job with
    | .printing => if p.lastJob = .paused then q else q.printStarted
    | .paused => q
    | .standby | .complete | .cancelled => { q with print := .fresh }.forced .jobEnded
    | .error =>
      q.withMessage
        (if Text.allBlank s.errorMessage.toList then Act.unknownError else s.errorMessage)

/-- The panel after a look at the probing. -/
def followingProbe (s : Status) (p : Panel) : Panel :=
  if s.probe.isSome = (p.screen == .manualProbe) then p
  else { p with probe := .fresh }.forced (if s.probe.isSome then .probeStarted else .probeEnded)

/-- The panel after a look at the progress, which is of interest to the print screen. -/
def followingPrint (s : Status) (p : Panel) : Panel :=
  if p.screen = .printProcess then { p with print := p.print.following s } else p

/-- The panel after a look at the homed axes. -/
def followingHoming (s : Status) (p : Panel) : Panel :=
  match p.homing with
  | none => p
  | some request =>
    if s.homed.all then
      if p.screen = .homing then
        { p with
          homing := none
          places := p.places.select .prepare request.position
          screen := .prepare }
      else { p with homing := none }
    else p

/-- The panel after a look at the messages. -/
def followingMessage (s : Status) (p : Panel) : Panel :=
  if s.message = p.lastMessage then p
  else { p with lastMessage := s.message }.withMessage s.message

/-- The changes that bring the panel in line with a report, in their order. -/
def changesFor (s : Status) : List (Panel → Panel) :=
  [followingJob s, followingProbe s, followingPrint s, followingHoming s, followingMessage s]

/-- The panel after some changes. -/
def after (p : Panel) (changes : List (Panel → Panel)) : Panel :=
  changes.foldl (fun q change => change q) p

/-- The first change is made before the others. -/
@[simp] theorem after_cons (p : Panel) (change : Panel → Panel) (rest : List (Panel → Panel)) :
    p.after (change :: rest) = (change p).after rest := rfl

/-- Changes are made one after the other. -/
@[simp] theorem after_append (p : Panel) (first second : List (Panel → Panel)) :
    p.after (first ++ second) = (p.after first).after second :=
  List.foldl_append

/-- The panel in line with a report. -/
def following (s : Status) (p : Panel) : Panel := p.after (changesFor s)

end Panel

/-! ### Acts that change the panel step by step -/

namespace Act

variable {α β : Type} {a : Answers} {s : Scene} {q : Panel}

/-- A fault that stands for a display call which failed. -/
def FailedCall (a : Answers) (f : Fault) : Prop :=
  ∃ n failure, f = .display failure ∧ a.display n = some failure

/-- An act that sends nothing and brings the panel to a state before anything is drawn, so that a
display call which fails does not matter to the panel. -/
def Becomes (act : Act α) (q : Panel) (a : Answers) (s : Scene) : Prop :=
  act.Ensures (fun _ t => Scene.Redrawn { s with panel := q } t)
    (fun f t => FailedCall a f ∧ Scene.Redrawn { s with panel := q } t) a s

/-- An act leaves the panel that it makes, whether or not a call fails. -/
theorem Becomes.leaves {act : Act α} (h : act.Becomes q a s) : act.Leaves (· = q) a s :=
  h.mono (fun _ _ ht => ht.panel_eq) (fun _ _ ht => ht.2.panel_eq)

/-- On a display that does not fail the act comes to its end. -/
theorem Becomes.ends {act : Act α} (h : act.Becomes q a s) (hdisplay : ∀ n, a.display n = none) :
    act.Ends (fun _ t => t.panel = q) a s := by
  apply h.mono
  · exact fun _ _ ht => ht.panel_eq
  · rintro _ _ ⟨⟨n, failure, -, hfailed⟩, -⟩
    rw [hdisplay n] at hfailed
    contradiction

/-- A result that is given leaves the panel as it is. -/
@[simp] theorem becomes_pure (x : α) : (pure x : Act α).Becomes q a s ↔ s.panel = q := by
  constructor
  · intro h
    exact h.leaves
  · rintro rfl
    exact Scene.Redrawn.refl s

/-- A look at the panel may come first. -/
@[simp] theorem becomes_panel_bind (next : Panel → Act β) :
    (panel >>= next).Becomes q a s ↔ (next s.panel).Becomes q a s :=
  ensures_panel_bind next

/-- A change of the panel may come first. -/
@[simp] theorem becomes_change_bind (f : Panel → Panel) (next : Unit → Act β) :
    (change f >>= next).Becomes q a s ↔
      (next ()).Becomes q a { s with panel := f s.panel } :=
  ensures_change_bind f next

/-- A change makes the panel that it says. -/
@[simp] theorem becomes_change (f : Panel → Panel) :
    (change f).Becomes q a s ↔ f s.panel = q :=
  becomes_pure (a := a) (s := { s with panel := f s.panel }) ()

/-- A drawing leaves the panel as it is. -/
@[simp] theorem becomes_draw (d : Drawing) : (draw d).Becomes q a s ↔ s.panel = q := by
  constructor
  · intro h
    exact (leaves_draw d).mp h.leaves
  · rintro rfl
    apply ensures_draw
    · exact s.redrawn_afterCalls _ _
    · intro f shown _ hfailed
      exact ⟨⟨_, f, rfl, hfailed⟩, s.redrawn_afterCalls _ _⟩

/-- A drawing that is allowed to fail leaves the panel as it is. -/
@[simp] theorem becomes_drawIfPossible (d : Drawing) :
    (drawIfPossible d).Becomes q a s ↔ s.panel = q := by
  constructor
  · intro h
    exact (leaves_drawIfPossible d).mp h.leaves
  · rintro rfl
    exact ensures_drawIfPossible fun shown calls _ => s.redrawn_afterCalls shown calls

/-- What follows may draw more, as long as it keeps the panel. -/
theorem Becomes.bind {act : Act α} {next : α → Act β} (h : act.Becomes q a s)
    (hnext : ∀ x t, t.panel = q → (next x).Becomes q a t) : (act >>= next).Becomes q a s := by
  rw [Becomes, ensures_bind]
  apply h.mono
  · intro x t ht
    apply (hnext x t ht.panel_eq).mono
    · intro _ u hu
      exact (ht.change q).trans hu
    · rintro f u ⟨hfailed, hu⟩
      exact ⟨hfailed, (ht.change q).trans hu⟩
  · intro f t ht
    exact ht

/-- What is given at the end does not matter to the panel. -/
theorem Becomes.bind_pure {act : Act α} (h : act.Becomes q a s) (x : β) :
    (act >>= fun _ => (pure x : Act β)).Becomes q a s :=
  h.bind fun _ _ ht => (becomes_pure x).mpr ht

/-- Going to a screen changes the screen. -/
@[simp] theorem becomes_goTo (screen : Screen) :
    (goTo screen).Becomes q a s ↔ { s.panel with screen := screen } = q := by
  simp only [goTo, becomes_change_bind, becomes_panel_bind, becomes_draw]

/-- A message is put over the screen even if it cannot be drawn. -/
@[simp] theorem becomes_showMessage (text : String) :
    (showMessage text).Becomes q a s ↔ s.panel.withMessage text = q := by
  unfold showMessage Panel.withMessage
  split <;> simp

/-- A screen is forced even if it cannot be drawn. -/
@[simp] theorem becomes_force (d : Demand) :
    (force d).Becomes q a s ↔ s.panel.forced d = q := by
  simp only [force, becomes_panel_bind, becomes_change_bind]
  split
  · rw [becomes_goTo]
    rfl
  · next h =>
    -- The screen is the demanded one already.
    have hscreen : s.panel.abandonEdit.screen.after d = s.panel.abandonEdit.screen := by
      simpa using And.left (not_or.mp h)
    rw [becomes_pure, Panel.forced, hscreen]

/-! ### The changes for a report -/

/-- Following the job is its change and a drawing. -/
theorem becomes_followJob (r : Status) :
    (followJob r).Becomes (s.panel.followingJob r) a s := by
  simp only [followJob, Panel.followingJob, becomes_panel_bind, becomes_change_bind]
  by_cases hsame : r.job = s.panel.lastJob
  · simp [hsame]
  · rw [if_pos hsame, if_neg hsame]
    cases r.job with
    | printing =>
      by_cases hpaused : s.panel.lastJob = .paused <;> simp [hpaused, Panel.printStarted]
    | paused => simp
    | standby => simp
    | complete => simp
    | cancelled => simp
    | error => simp

/-- Following the probing is its change and a drawing. -/
theorem becomes_followProbe (r : Status) :
    (followProbe r).Becomes (s.panel.followingProbe r) a s := by
  simp only [followProbe, Panel.followingProbe, becomes_panel_bind]
  cases r.probe.isSome <;> cases (s.panel.screen == .manualProbe)
  · simp
  · dsimp only
    rw [becomes_change_bind]
    exact Becomes.bind_pure ((becomes_force _).mpr rfl) false
  · dsimp only
    rw [becomes_change_bind]
    exact Becomes.bind_pure ((becomes_force _).mpr rfl) true
  · dsimp only
    rw [becomes_panel_bind]
    exact Becomes.bind_pure ((becomes_draw _).mpr rfl) false

/-- The print screen is brought up to date before its changed parts are drawn. -/
theorem becomes_refreshPrint (r : Status) :
    (refreshPrint r).Becomes { s.panel with print := s.panel.print.following r } a s := by
  simp only [refreshPrint, PrintSession.following, becomes_panel_bind, becomes_change_bind]
  by_cases hnew : (r.progress.isFinished && !s.panel.print.finished) = true
  · obtain ⟨hfinished, hbefore⟩ : r.progress.isFinished ∧ s.panel.print.finished = false := by
      simpa using hnew
    simp [hfinished, hbefore]
  · rw [if_neg hnew, if_neg hnew]
    by_cases hshown : s.panel.print.completionShown
    · simp [hshown]
    · by_cases hpaused : r.isPaused = s.panel.print.paused
      · simp [hshown, hpaused]
      · simp only [hshown, hpaused, Bool.not_false, ne_eq, not_false_eq_true, if_true,
          becomes_panel_bind, becomes_change_bind]
        apply Becomes.bind
        · simp
        · intro _ t ht
          simpa using ht

/-- Waiting for the axes to be homed is its change and a drawing. -/
theorem becomes_followHoming (r : Status) :
    (followHoming r).Becomes (s.panel.followingHoming r) a s := by
  simp only [followHoming, Panel.followingHoming, becomes_panel_bind]
  cases hhoming : s.panel.homing with
  | none => simp
  | some request =>
    by_cases hall : r.homed.all = true
    · by_cases hscreen : s.panel.screen = .homing <;> simp [hall, hscreen, Screen.after]
    · simp [hall]

/-- The status area is drawn without a change. -/
theorem becomes_refreshStatus (r : Status) (previous : Option Status) :
    (refreshStatus r previous).Becomes s.panel a s := by
  simp only [refreshStatus, becomes_panel_bind]
  split <;> simp

/-- Following the message of a report is its change and a drawing. -/
theorem becomes_followMessage (r : Status) :
    (followMessage r).Becomes (s.panel.followingMessage r) a s := by
  simp only [followMessage, Panel.followingMessage, becomes_panel_bind]
  by_cases hsame : r.message = s.panel.lastMessage <;> simp [hsame]

/-! ### All changes in their order -/

/-- An act that makes some changes of the panel, and otherwise draws only. A display call that
fails leaves the changes that come before it. -/
def Makes (act : Act α) (changes : List (Panel → Panel)) (a : Answers) (s : Scene) : Prop :=
  act.Ensures (fun _ t => Scene.Redrawn { s with panel := s.panel.after changes } t)
    (fun f t => FailedCall a f ∧ ∃ made, made <+: changes ∧
      Scene.Redrawn { s with panel := s.panel.after made } t) a s

/-- An act that makes a panel makes one change. -/
theorem Becomes.makes {act : Act α} {change : Panel → Panel}
    (h : act.Becomes (change s.panel) a s) : act.Makes [change] a s := by
  apply Ensures.mono h
  · intro _ t ht
    exact ht
  · rintro f t ⟨hfailed, ht⟩
    exact ⟨hfailed, [change], List.prefix_refl _, ht⟩

/-- An act that draws only makes no change. -/
theorem Becomes.makes_nil {act : Act α} (h : act.Becomes s.panel a s) : act.Makes [] a s := by
  apply Ensures.mono h
  · intro _ t ht
    exact ht
  · rintro f t ⟨hfailed, ht⟩
    exact ⟨hfailed, [], List.prefix_refl _, ht⟩

/-- A look at the panel may come first. -/
@[simp] theorem makes_panel_bind {changes : List (Panel → Panel)} (next : Panel → Act β) :
    (panel >>= next).Makes changes a s ↔ (next s.panel).Makes changes a s :=
  ensures_panel_bind next

/-- One act after the other makes the changes of both. -/
theorem Makes.bind {act : Act α} {next : α → Act β} {first second : List (Panel → Panel)}
    (h : act.Makes first a s)
    (hnext : ∀ x t, t.panel = s.panel.after first → (next x).Makes second a t) :
    (act >>= next).Makes (first ++ second) a s := by
  rw [Makes, ensures_bind]
  apply Ensures.mono h
  · intro x t ht
    have hpanel : t.panel = s.panel.after first := ht.panel_eq
    -- The second act starts from drawings of the first, which both changes pass by.
    have hmove (changes : List (Panel → Panel)) (u : Scene)
        (hu : Scene.Redrawn { t with panel := t.panel.after changes } u) :
        Scene.Redrawn { s with panel := s.panel.after (first ++ changes) } u := by
      rw [hpanel, ← Panel.after_append] at hu
      exact (ht.change _).trans hu
    apply Ensures.mono (hnext x t hpanel)
    · intro y u hu
      exact hmove second u hu
    · rintro f u ⟨hfailed, made, hmade, hu⟩
      exact ⟨hfailed, first ++ made, List.prefix_append_right_inj first |>.mpr hmade,
        hmove made u hu⟩
  · rintro f t ⟨hfailed, made, hmade, ht⟩
    exact ⟨hfailed, made, hmade.trans (List.prefix_append _ _), ht⟩

/-- A change that leaves the panel at hand alone may be named as made. -/
theorem Makes.cons {act : Act α} {change : Panel → Panel} {rest : List (Panel → Panel)}
    (h : act.Makes rest a s) (hchange : change s.panel = s.panel) :
    act.Makes (change :: rest) a s := by
  apply Ensures.mono h
  · intro x t ht
    simpa [hchange] using ht
  · rintro f t ⟨hfailed, made, hmade, ht⟩
    exact ⟨hfailed, change :: made, by simpa using hmade, by simpa [hchange] using ht⟩

/-- What is done for a report before its message is looked at. -/
def followPrinter (r : Status) (previous : Option Status) : Act Unit := do
  followJob r
  let probeEntered ← followProbe r
  if (← panel).screen = .printProcess then refreshPrint r
  followHoming r
  if !probeEntered then refreshStatus r previous

/-- The message of a report is followed last. -/
theorem reconcile_eq_followPrinter (r : Status) (previous : Option Status) :
    reconcile r previous = followPrinter r previous >>= fun _ => followMessage r := by
  rw [reconcile, followPrinter]
  simp only [bind_assoc]
  refine bind_congr fun _ => bind_congr fun probeEntered => bind_congr fun p => ?_
  by_cases hscreen : p.screen = .printProcess <;> cases probeEntered <;>
    simp [hscreen, bind_assoc]

/-- What follows the look at the progress is the same on every screen. -/
private theorem makes_afterPrint (r : Status) (previous : Option Status) (probeEntered : Bool) :
    (do
      followHoming r
      if !probeEntered then refreshStatus r previous : Act Unit).Makes
      ([Panel.followingHoming r] ++ []) a s := by
  apply (becomes_followHoming r).makes.bind
  intro _ t _
  cases probeEntered with
  | false => exact (becomes_refreshStatus r previous).makes_nil
  | true =>
    have hsame : (pure () : Act Unit).Becomes t.panel a t := (becomes_pure ()).mpr rfl
    exact hsame.makes_nil

/-- Following the printer makes the other changes in their order. -/
theorem makes_followPrinter (r : Status) (previous : Option Status) :
    (followPrinter r previous).Makes [Panel.followingJob r, Panel.followingProbe r,
      Panel.followingPrint r, Panel.followingHoming r] a s := by
  rw [followPrinter]
  apply (becomes_followJob r).makes.bind
  intro _ afterJob _
  apply (becomes_followProbe r).makes.bind
  intro probeEntered afterProbe _
  rw [makes_panel_bind]
  by_cases hscreen : afterProbe.panel.screen = .printProcess
  · have hprint : (refreshPrint r).Becomes (afterProbe.panel.followingPrint r) a afterProbe := by
      rw [Panel.followingPrint, if_pos hscreen]
      exact becomes_refreshPrint r
    rw [if_pos hscreen]
    exact hprint.makes.bind fun _ _ _ => makes_afterPrint r previous probeEntered
  · rw [if_neg hscreen]
    apply Makes.cons (makes_afterPrint r previous probeEntered)
    rw [Panel.followingPrint, if_neg hscreen]

/-- Bringing the panel in line with a report makes its changes, or those that come before a display
call that fails. Nothing is sent. -/
theorem makes_reconcile (r : Status) (previous : Option Status) :
    (reconcile r previous).Makes (Panel.changesFor r) a s := by
  rw [reconcile_eq_followPrinter]
  exact (makes_followPrinter r previous).bind fun _ _ _ => (becomes_followMessage r).makes

end Act

/-! ### The tick -/

/-- The scene after a report was heard and kept. -/
def Scene.heard (s : Scene) (r : Status) : Scene :=
  { s with panel := { s.panel with lastStatus := some r }, looks := s.looks + 1 }

namespace Act

variable {a : Answers} {s : Scene}

/-- What a tick does after it has looked at the knob. -/
def hear : Act Unit := do
  match ← look with
  | none => pure ()
  | some r =>
    let previous := (← panel).lastStatus
    change ({ · with lastStatus := some r })
    recovering (reconcile r previous)
    countIdleTick

/-- A tick asks the knob about a long press, and then hears from the printer. -/
theorem tick_eq (now : Nat) : tick now = keyOfKnob (·.poll now) >>= fun _ => hear := rfl

/-- After it has looked at the knob, a tick looks at the printer. -/
theorem tick_of_polled {now : Nat} {t : Scene} (h : keyOfKnob (·.poll now) a s = .ok () t) :
    tick now a s = hear a t := by
  rw [tick_eq, bind_eq h]

/-- A look at the printer gives its next report. -/
theorem look_eq {report : Option Status} (h : a.status s.looks = report) :
    look a s = .ok report { s with looks := s.looks + 1 } := by
  rw [← h]
  rfl

/-- Without a report, a tick does nothing more. -/
theorem hear_eq_of_none (h : a.status s.looks = none) :
    hear a s = .ok () { s with looks := s.looks + 1 } :=
  bind_eq (look_eq h)

/-- With a report, the panel is brought in line with it, and an idle tick is counted. -/
theorem hear_eq_of_some {r : Status} (h : a.status s.looks = some r) :
    hear a s =
      (recovering (reconcile r s.panel.lastStatus) >>= fun _ => countIdleTick) a (s.heard r) :=
  bind_eq (look_eq h)

end Act

end PrinterPanel
