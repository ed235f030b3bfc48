import PrinterPanel.Proofs.Readings
import PrinterPanel.Proofs.Walks

/-!
# Messages stay up

A message is put over any screen, and it stays there through keys, further messages and reports
until a click answers it, or a report brings up another screen: that of a job that has begun or
ended, or that of probing by hand.
-/

namespace PrinterPanel

section Throughout

variable {State : Type} {step : State → Operation → Answers → State}
  {holds : State → Operation → Answers → Prop}

/-- Something holds of every operation of a run, in the state that the operation finds. -/
def Throughout (step : State → Operation → Answers → State)
    (holds : State → Operation → Answers → Prop) (x : State) : List (Operation × Answers) → Prop
  | [] => True
  | (op, a) :: rest => holds x op a ∧ Throughout step holds (step x op a) rest

instance Throughout.decidable [∀ x op a, Decidable (holds x op a)] :
    (x : State) → (ops : List (Operation × Answers)) → Decidable (Throughout step holds x ops)
  | _, [] => .isTrue trivial
  | x, (op, a) :: rest =>
    have : Decidable (Throughout step holds (step x op a) rest) := Throughout.decidable _ rest
    inferInstanceAs (Decidable (_ ∧ _))

end Throughout

namespace Panel

/-- Something holds of every operation of a run, at the panel that the operation finds. -/
abbrev Throughout (holds : Panel → Operation → Answers → Prop) (p : Panel)
    (ops : List (Operation × Answers)) : Prop :=
  PrinterPanel.Throughout (fun p op a => (p.perform op a).panel) holds p ops

/-- What one operation keeps, a run keeps. -/
theorem Throughout.run {holds : Panel → Operation → Answers → Prop} {I : Panel → Prop}
    (hstep : ∀ {p op a}, holds p op a → I p → I (p.perform op a).panel) {p : Panel}
    {ops : List (Operation × Answers)} (hops : p.Throughout holds ops) (h : I p) :
    I (p.run ops).1 := by
  induction ops generalizing p with
  | nil => exact h
  | cons x rest ih => exact ih hops.2 (hstep hops.1 h)

/-- What holds of every panel holds throughout. -/
theorem throughout_of_forall {holds : Panel → Operation → Answers → Prop}
    {ops : List (Operation × Answers)} (h : ∀ x ∈ ops, ∀ q, holds q x.1 x.2) (p : Panel) :
    p.Throughout holds ops := by
  induction ops generalizing p with
  | nil => trivial
  | cons x rest ih =>
    exact ⟨h x List.mem_cons_self p, ih (fun y hy => h y (List.mem_cons_of_mem _ hy)) _⟩

variable {I : Panel → Prop} {p : Panel} {r : Status} {op : Operation} {a : Answers}

/-! ### What a message outlasts -/

/-- An operation passes a message by: it delivers no click, and a report that it reads brings up no
screen but a message. -/
structure PassesBy (p : Panel) (op : Operation) (a : Answers) : Prop where
  running : op ≠ .start
  browsing : op ≠ .iconFinder
  key : p.keyOf op ≠ some .click
  report : ∀ r ∈ p.reads op a, ∀ screen ∈ p.urgent r, screen = .messagePopup

instance : Decidable (p.PassesBy op a) :=
  decidable_of_iff (op ≠ .start ∧ op ≠ .iconFinder ∧ p.keyOf op ≠ some .click ∧
      ∀ r ∈ p.reads op a, ∀ screen ∈ p.urgent r, screen = .messagePopup)
    ⟨fun ⟨hrunning, hbrowsing, hkey, hreport⟩ => ⟨hrunning, hbrowsing, hkey, hreport⟩,
      fun h => ⟨h.running, h.browsing, h.key, h.report⟩⟩

/-- What holds while a message is up, whatever passes that by. -/
structure Outlasting (I : Panel → Prop) : Prop where
  /-- A message is up. -/
  screen : ∀ {p}, I p → p.screen = .messagePopup
  /-- The knob is read, a symbol is taken, and the display is lit or dimmed. -/
  attends : ∀ {p} latch knob idleTicks dimmed, I p →
    I { p with latch := latch, knob := knob, idleTicks := idleTicks, dimmed := dimmed }
  /-- The printer is compared with. -/
  notes : ∀ {p} job report message homing, I p →
    I { p with lastJob := job, lastStatus := report, lastMessage := message, homing := homing }
  /-- A message is shown. -/
  warns : ∀ {p} text, I p → I (p.withMessage text)

/-- That a message is up outlasts all of this. -/
theorem outlasting_screen : Outlasting (·.screen = .messagePopup) where
  screen h := h
  attends _ _ _ _ h := h
  notes _ _ _ _ h := h
  warns {p} text h := by
    obtain hsame | hup := p.withMessage_cases text
    · rw [hsame]
      exact h
    · exact hup

/-- A report brings up no screen but a message if the bed is not probed and the job does not bring
up another. -/
theorem quiet_of_urgent (h : ∀ screen ∈ p.urgent r, screen = .messagePopup) :
    r.probe.isSome = false ∧
      ∀ screen, Job.bringsUp p.lastJob r.job = some screen → screen = .messagePopup := by
  have hprobe : r.probe.isSome = false := by
    cases hprobe : r.probe.isSome with
    | false => rfl
    | true => exact absurd (h .manualProbe (by simp [urgent, pressing, hprobe])) (by decide)
  refine ⟨hprobe, fun screen hup => h screen ?_⟩
  simp [urgent, pressing, hprobe, hup]

namespace Outlasting

/-- A change of the job that brings up nothing but a message. -/
theorem followingJob (hI : Outlasting I) (h : I p)
    (hup : ∀ screen, Job.bringsUp p.lastJob r.job = some screen → screen = .messagePopup) :
    I (p.followingJob r) := by
  have hnoted (job : Job) : I { p with lastJob := job } :=
    hI.notes job p.lastStatus p.lastMessage p.homing h
  unfold Panel.followingJob
  unfold Job.bringsUp at hup
  by_cases hsame : r.job = p.lastJob
  · simp only [hsame, if_true]
    exact hnoted _
  · simp only [hsame, if_false] at hup ⊢
    cases hjob : r.job with
    | printing =>
      by_cases hpaused : p.lastJob = .paused
      · simp only [hpaused, if_true]
        exact hnoted _
      · simp [hjob, hpaused] at hup
    | paused => exact hnoted _
    | standby | complete | cancelled => simp [hjob] at hup
    | error => exact hI.warns _ (hnoted _)

/-- The other changes for a report, as long as the bed is not probed. -/
theorem change (hI : Outlasting I) (hprobe : r.probe.isSome = false) {change : Panel → Panel}
    (hchange : change ∈ (changesFor r).tail) (h : I p) : I (change p) := by
  have hup : p.screen = .messagePopup := hI.screen h
  simp only [changesFor, List.tail_cons, List.mem_cons, List.not_mem_nil, or_false] at hchange
  obtain rfl | rfl | rfl | rfl := hchange
  · rwa [followingProbe, hprobe, if_pos (by rw [hup]; rfl)]
  · rwa [followingPrint, if_neg (by simp [hup])]
  · unfold followingHoming
    split
    · exact h
    · split
      · rw [if_neg (by simp [hup])]
        exact hI.notes p.lastJob p.lastStatus p.lastMessage none h
      · exact h
  · unfold followingMessage
    split
    · exact h
    · exact hI.warns _ (hI.notes p.lastJob p.lastStatus r.message p.homing h)

/-- It outlasts the changes for a report behind the one for the job. -/
theorem afterRest (hI : Outlasting I) (hprobe : r.probe.isSome = false)
    {changes : List (Panel → Panel)} (hchanges : changes ⊆ (changesFor r).tail) (h : I p) :
    I (p.after changes) := by
  induction changes generalizing p with
  | nil => exact h
  | cons change rest ih =>
    obtain ⟨hchange, hrest⟩ := List.cons_subset.mp hchanges
    exact ih hrest (hI.change hprobe hchange h)

/-- It outlasts as many of the changes for a report as are made before a fault. -/
theorem after (hI : Outlasting I) (hprobe : r.probe.isSome = false)
    (hup : ∀ screen, Job.bringsUp p.lastJob r.job = some screen → screen = .messagePopup)
    {made : List (Panel → Panel)} (hmade : made <+: changesFor r) (h : I p) : I (p.after made) := by
  cases made with
  | nil => exact h
  | cons first rest =>
    obtain ⟨rfl, hrest⟩ := List.cons_prefix_cons.mp hmade
    exact hI.afterRest (p := p.followingJob r) hprobe hrest.subset (hI.followingJob h hup)

/-- It outlasts the counting of an idle tick. -/
theorem idled (hI : Outlasting I) (h : I p) : I p.idled := by
  rw [idled_eq]
  exact hI.attends p.latch p.knob _ _ h

/-- A message that is up takes no key but a click. -/
theorem key (hI : Outlasting I) {k : Key} {s : Scene} (h : I s.panel) (hk : k ≠ .click) :
    (Act.key k).Ends (fun _ t => I t.panel) a s := by
  have hsymbol : s.panel.symbolOf k ≠ .enter := fun henter => hk (symbolOf_eq_enter henter)
  obtain ⟨lights, -, hkey⟩ := Act.key_eq (a := a) (s := s) k
  have hwoken : I (Act.woken s lights).panel := hI.attends .empty s.panel.knob 0 false h
  have hignored : (Act.messagePopup (s.panel.symbolOf k)).Ends (fun _ t => I t.panel) a
      (Act.woken s lights) := by
    simpa [Act.messagePopup, hsymbol, Act.Ends] using hwoken
  rw [hI.screen h] at hkey
  rw [Act.Ends, Act.Ensures, hkey]
  exact hignored.recovering

/-- It outlasts the reading of the knob unless that is a click. -/
theorem keyOfKnob (hI : Outlasting I) (decode : Knob → Option Key × Knob) {s : Scene}
    (h : I s.panel) (hk : (decode s.panel.knob).1 ≠ some .click) :
    (Act.keyOfKnob decode).Ends (fun _ t => I t.panel) a s := by
  have hturned : I { s.panel with knob := (decode s.panel.knob).2 } :=
    hI.attends s.panel.latch _ s.panel.idleTicks s.panel.dimmed h
  rw [Act.Ends, Act.Ensures, Act.keyOfKnob_eq]
  cases hdecode : (decode s.panel.knob).1 with
  | none => exact hturned
  | some k =>
    have hother : k ≠ .click := by
      rintro rfl
      exact hk hdecode
    exact hI.key (s := { s with panel := _ }) hturned hother

/-- An operation that passes a message by. -/
theorem perform (hI : Outlasting I) (hpass : p.PassesBy op a) (h : I p) :
    I (p.perform op a).panel := by
  apply perform_of_ends (J := fun t => I t.panel)
  have hopening : I (Scene.opening p).panel := h
  have hkey := hpass.key
  cases op with
  | start => exact absurd rfl hpass.running
  | iconFinder => exact absurd rfl hpass.browsing
  | key k => exact hI.key hopening fun hk => hkey (congrArg some hk)
  | rotate r now =>
    exact hI.keyOfKnob (fun k => (some (k.rotate r now).1, (k.rotate r now).2)) hopening hkey
  | sample x y now => exact hI.keyOfKnob (·.sample x y now) hopening hkey
  | button down now => exact hI.keyOfKnob (·.button down now) hopening hkey
  | poll now => exact hI.keyOfKnob (·.poll now) hopening hkey
  | message text =>
    obtain ⟨t, ht, hdrawn⟩ := Act.showMessage_eq (a := a) (s := .opening p) text
    refine Act.ends_of_eq ht ?_
    rw [hdrawn.panel_eq]
    exact hI.warns text h
  | tick now =>
    obtain ⟨s, hs, hkept⟩ := Act.keyOfKnob_ends (a := a) (s := .opening p) (·.poll now)
    have hpolled : I s.panel := by
      have hends := hI.keyOfKnob (a := a) (·.poll now) hopening hkey
      rwa [Act.Ends, Act.Ensures, hs] at hends
    have htick : Act.tick now a (.opening p) = Act.hear a s := Act.tick_of_polled hs
    cases hreport : a.status s.looks with
    | none => exact Act.ends_of_eq (htick.trans (Act.hear_eq_of_none hreport)) hpolled
    | some r =>
      have hreads : p.reads (.tick now) a = some r := by simp only [reads, hs, hreport]
      have hheard : I (s.heard r).panel :=
        hI.notes s.panel.lastJob (some r) s.panel.lastMessage s.panel.homing hpolled
      obtain ⟨hprobe, hup⟩ := quiet_of_urgent (hpass.report r hreads)
      have hjob : (s.heard r).panel.lastJob = p.lastJob :=
        congrArg (fun k => k.2.1) (known_of_attended (p := p) hkept)
      obtain ⟨t, made, ht, hmade, hdrawn⟩ := Act.hear_ends (a := a) hreport
      refine Act.ends_of_eq (htick.trans ht) ?_
      rw [hdrawn.panel_eq]
      exact hI.idled (hI.after hprobe (hjob ▸ hup) hmade hheard)

end Outlasting

/-! ### What dismisses a message -/

/-- The states of a job that has begun or ended. -/
def Job.switching : List Job := [.printing, .standby, .complete, .cancelled]

/-- An operation dismisses a message: it switches the display on, opens the browser for pictograms
or delivers a click, or it reads a report of a bed that is probed or of a job that has begun or
ended. -/
def Dismisses (p : Panel) (op : Operation) (a : Answers) : Prop :=
  op = .start ∨ op = .iconFinder ∨ p.keyOf op = some .click ∨
    ∃ r ∈ p.reads op a, r.probe.isSome ∨ r.job ≠ p.lastJob ∧ r.job ∈ Job.switching

instance : Decidable (p.Dismisses op a) := inferInstanceAs (Decidable (_ ∨ _ ∨ _ ∨ _))

/-- An operation that dismisses no message passes it by. -/
theorem PassesBy.of_not_dismisses (hup : p.screen = .messagePopup) (h : ¬ p.Dismisses op a) :
    p.PassesBy op a := by
  obtain ⟨hrunning, hbrowsing, hkey, hreport⟩ : op ≠ .start ∧ op ≠ .iconFinder ∧
      p.keyOf op ≠ some .click ∧ ¬ ∃ r ∈ p.reads op a, r.probe.isSome ∨
        r.job ≠ p.lastJob ∧ r.job ∈ Job.switching := by
    simpa only [Dismisses, not_or] using h
  refine ⟨hrunning, hbrowsing, hkey, fun r hr screen hscreen => ?_⟩
  have hprobe : r.probe.isSome = false := by
    cases hprobe : r.probe.isSome with
    | false => rfl
    | true => exact absurd ⟨r, hr, .inl hprobe⟩ hreport
  have hjob : Job.bringsUp p.lastJob r.job = some screen := by
    simpa [urgent, pressing, homingBringsUp, hprobe, hup] using hscreen
  unfold Job.bringsUp at hjob
  split at hjob
  · contradiction
  · next hnew =>
    have hkept : r.job ∉ Job.switching := fun hmem => hreport ⟨r, hr, .inr ⟨hnew, hmem⟩⟩
    cases hstate : r.job with
    | printing | standby | complete | cancelled =>
      rw [hstate] at hkept
      exact absurd (by decide) hkept
    | paused => simp [hstate] at hjob
    | error =>
      rw [hstate] at hjob
      exact (Option.some.inj hjob).symm

/-- A job that has failed puts up a message, which the rest of the report leaves there. -/
theorem following_of_failed (hprobe : r.probe.isSome = false) (hjob : r.job = .error)
    (hnew : p.lastJob ≠ .error) : (p.following r).screen = .messagePopup := by
  have hup : Job.bringsUp p.lastJob r.job = some .messagePopup := by
    simp [Job.bringsUp, hjob, hnew.symm]
  have hwarned : (p.followingJob r).screen = .messagePopup := by
    rw [(p.followingJob_brings r).screen, hup]
    rfl
  exact outlasting_screen.afterRest (p := p.followingJob r) hprobe (List.Subset.refl _) hwarned

/-- The last job state is the one of the last report. -/
theorem lastJob_of_lastStatus {s : Settings} {width height : Nat}
    {ops : List (Operation × Answers)}
    (h : ((ofSettings s width height).run ops).1.lastStatus = some r) :
    ((ofSettings s width height).run ops).1.lastJob = r.job := by
  let p := ofSettings s width height
  have hheard : (p.run ops).1.heard =
      ((p.readings ops).getLast?.map fun r => (some r, r.job)).getD p.heard := p.run_heard ops
  cases hlast : (p.readings ops).getLast? with
  | none =>
    rw [hlast] at hheard
    have hnothing : (p.run ops).1.lastStatus = none := congrArg Prod.fst hheard
    rw [hnothing] at h
    contradiction
  | some r' =>
    rw [hlast] at hheard
    obtain ⟨hreport, hjob⟩ : (p.run ops).1.lastStatus = some r' ∧ (p.run ops).1.lastJob = r'.job :=
      Prod.mk.inj hheard
    rw [hreport] at h
    rwa [Option.some.inj h] at hjob

/-- A message that is up stays through everything that does not dismiss it, whatever display and
printer answer. A job that has failed always puts up a message, as long as the bed is not probed
and the display does not fail; and a report that is the same as the last one dismisses none, as long
as the bed is not probed. -/
theorem run_keeps_message (s : Settings) (width height : Nat)
    (before : List (Operation × Answers)) :
    let p := ((Panel.ofSettings s width height).run before).1
    (∀ later, p.screen = .messagePopup →
      p.Throughout (fun q op a => ¬ q.Dismisses op a) later →
        (p.run later).1.screen = .messagePopup) ∧
    ∀ now a r, p.reads (.tick now) a = some r → r.probe = none →
      let q := (p.perform (.tick now) a).panel
      ((∀ n, a.display n = none) → r.job = .error → p.lastJob ≠ .error →
        q.screen = .messagePopup) ∧
      (p.screen = .messagePopup → p.lastStatus = some r → q.screen = .messagePopup) := by
  intro p
  constructor
  · intro later hup hlater
    have hstep {q : Panel} {op : Operation} {a : Answers} (hkept : ¬ q.Dismisses op a)
        (hq : q.screen = .messagePopup) : (q.perform op a).panel.screen = .messagePopup :=
      outlasting_screen.perform (.of_not_dismisses hq hkept) hq
    exact hlater.run hstep hup
  · intro now a r hreads hprobe q
    have hidle : r.probe.isSome = false := by rw [hprobe]; rfl
    constructor
    · intro hdisplay hjob hnew
      obtain ⟨_, ⟨⟩, t, hpoll, hreport⟩ := reads_eq_some_iff.mp hreads
      obtain ⟨u, hu, hkept⟩ := Act.keyOfKnob_ends (a := a) (s := .opening p) (·.poll now)
      cases hpoll.symm.trans hu
      have hold : (t.heard r).panel.lastJob = p.lastJob :=
        congrArg (fun k => k.2.1) (known_of_attended (p := p) hkept)
      have hq : q = ((t.heard r).panel.following r).idled := tick_follows hdisplay hpoll hreport
      rw [hq, idled_eq]
      exact following_of_failed hidle hjob (hold ▸ hnew)
    · intro hup hsame
      have hjob : p.lastJob = r.job := lastJob_of_lastStatus hsame
      have hkept : ¬ p.Dismisses (.tick now) a := by
        rintro (hop | hop | hclick | ⟨r', hr', hswitched⟩)
        · contradiction
        · contradiction
        · exact poll_ne_click p.knob now hclick
        · obtain rfl : r = r' := Option.some.inj (hreads.symm.trans hr')
          obtain hprobing | ⟨hnew, -⟩ := hswitched
          · rw [hidle] at hprobing
            contradiction
          · exact hnew hjob.symm
      exact outlasting_screen.perform (.of_not_dismisses hup hkept) hup

/-- A message stays through a turn of the knob, through one more report of an idle printer, and
through a report of a job that has failed. -/
theorem keeps_message_open :
    let resting : Answers := { Answers.smooth with status := fun _ => some .atRest }
    let failed := { Status.atRest with job := .error, errorMessage := "Heater failed" }
    let failing : Answers := { Answers.smooth with status := fun _ => some failed }
    let before := [(Operation.start, Answers.smooth), (.tick 0, resting),
      (.message "Door open", .smooth)]
    let p := ((Panel.ofSettings .standard 240 320).run before).1
    p.screen = .messagePopup ∧ (p.run [(.key .down, .smooth)]).1.screen = .messagePopup ∧
      p.lastJob ≠ .error ∧ (p.perform (.tick 1000) failing).panel.screen = .messagePopup ∧
      p.lastStatus = some .atRest ∧
      (p.perform (.tick 1000) resting).panel.screen = .messagePopup := by
  intro resting failed failing before p
  have hup : p.screen = .messagePopup := by decide +kernel
  have hturn : p.Throughout (fun q op a => ¬ q.Dismisses op a) [(.key .down, .smooth)] := by
    decide +kernel
  have hnew : p.lastJob ≠ .error := by decide +kernel
  have hreport : p.lastStatus = some .atRest := by decide +kernel
  have hfailing : p.reads (.tick 1000) failing = some failed := by decide +kernel
  have hresting : p.reads (.tick 1000) resting = some .atRest := by decide +kernel
  -- The run is not to be computed once more.
  clear_value before
  obtain ⟨hkeeps, hticks⟩ := run_keeps_message .standard 240 320 before
  have hfailed := (hticks 1000 failing failed hfailing rfl).1 (fun _ => rfl) rfl hnew
  have hsame := (hticks 1000 resting .atRest hresting rfl).2 hup hreport
  exact ⟨hup, hkeeps _ hup hturn, hnew, hfailed, hreport, hsame⟩

/-- A message is lost when the bed begins to be probed, even that of a job which has failed; when a
report of probing is read that is the same as the one before the message; and when the display is
switched on once more. -/
theorem messages_lost :
    let probing : Answers :=
      { Answers.smooth with status := fun _ => some { Status.atRest with probe := some 500 } }
    let failing : Answers := { Answers.smooth with
      status := fun _ => some { Status.atRest with job := .error, probe := some 500 } }
    let p := ((Panel.ofSettings .standard 240 320).run [(.start, .smooth)]).1
    let q := (p.run [(.tick 0, probing), (.message "Door open", .smooth)]).1
    let shown := (p.perform (.message "Door open") .smooth).panel
    (shown.screen = .messagePopup ∧ shown.keyOf (.tick 0) = none ∧
      (∀ r ∈ shown.reads (.tick 0) probing, r.job = shown.lastJob) ∧
      (shown.perform (.tick 0) probing).panel.screen = .manualProbe) ∧
    (p.lastJob ≠ .error ∧ (∀ r ∈ p.reads (.tick 0) failing, r.job = .error) ∧
      (p.perform (.tick 0) failing).panel.screen = .manualProbe) ∧
    (q.screen = .messagePopup ∧ q.reads (.tick 1000) probing = q.lastStatus ∧
      (q.perform (.tick 1000) probing).panel.screen = .manualProbe) ∧
    (shown.perform .start .smooth).panel.screen = .mainMenu := by
  decide +kernel

end Panel

end PrinterPanel
