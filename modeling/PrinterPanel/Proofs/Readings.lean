import PrinterPanel.Proofs.KeyDrawings
import PrinterPanel.Proofs.PrintScreen
import PrinterPanel.Proofs.Settled

/-!
# What the ticks have read

The panel keeps the last report that a tick has read, and the job state of that report. No key, no
message and no failing call changes what is kept; only the next tick that reads a report does.
-/

namespace PrinterPanel

namespace Act

variable {α : Type} {a : Answers} {s : Scene} {p : Panel}

/-- Whatever a key draws, it leaves the background alone. -/
theorem Handles.leaves {act : Act α} (h : act.Handles p a s) :
    act.Leaves (fun q => q.background = p.background) a s :=
  h.mono (fun _ _ ht => ht.1) fun _ _ ht => ht.1

end Act

/-- A message leaves the background alone. -/
theorem Panel.background_withMessage (p : Panel) (text : String) :
    (p.withMessage text).background = p.background := by
  unfold withMessage
  split
  · rfl
  · rw [background, abandonEdit_eq]
    rfl

/-- A message leaves the size of the panel alone. -/
theorem Panel.withMessage_canvas (p : Panel) (text : String) :
    (p.withMessage text).canvas = p.canvas :=
  congrArg Background.canvas (p.background_withMessage text)

/-- The background after the knob was read, which may have made a key. -/
def Background.attended (b : Background) (decoded : Option Key × Knob) : Background :=
  match decoded.1 with
  | none => { b with knob := decoded.2 }
  | some _ => { b with knob := decoded.2, idleTicks := 0, dimmed := false }

namespace Act

variable {a : Answers} {s : Scene}

/-- What recovers from its fault ends without one. -/
theorem recovering_ends (act : Act Unit) : ∃ t, recovering act a s = .ok () t := by
  rw [recovering_eq]
  cases act a s with
  | ok _ t => exact ⟨t, rfl⟩
  | error f t =>
    cases f with
    | display _ => exact ⟨t, rfl⟩
    | refused r =>
      obtain ⟨u, hu, -⟩ := showMessage_eq (a := a) (s := t) ("Error: " ++ r.message)
      exact ⟨u, hu⟩

/-- What holds after either end holds after the one that came. -/
theorem Leaves.of_eq_ok {α : Type} {act : Act α} {I : Panel → Prop} {x : α} {t : Scene}
    (h : act.Leaves I a s) (ht : act a s = .ok x t) : I t.panel := by
  simpa only [Leaves, Ensures, ht] using h

/-- A key starts to count idle ticks again. -/
theorem key_ends (k : Key) :
    ∃ t, key k a s = .ok () t ∧ t.panel.background = s.panel.awake.background := by
  obtain ⟨shown, -, hkey⟩ := key_eq (a := a) (s := s) k
  have hhandled : (recovering (handle s.panel.screen (s.panel.symbolOf k))).Leaves
      (fun q => q.background = s.panel.awake.background) a (woken s shown) :=
    (handles_handle (s := woken s shown) (s.panel.symbolOf k)).leaves.recovering
      fun {q} text hq => (q.background_withMessage text).trans hq
  obtain ⟨t, ht⟩ := recovering_ends (a := a) (s := woken s shown)
    (handle s.panel.screen (s.panel.symbolOf k))
  exact ⟨t, hkey.trans ht, hhandled.of_eq_ok ht⟩

/-- The knob is read to the end, and of the background nothing changes but what that does. -/
theorem keyOfKnob_ends (decode : Knob → Option Key × Knob) :
    ∃ t, keyOfKnob decode a s = .ok () t ∧
      t.panel.background = s.panel.background.attended (decode s.panel.knob) := by
  rw [keyOfKnob_eq, Background.attended]
  cases (decode s.panel.knob).1 with
  | none => exact ⟨_, rfl, rfl⟩
  | some k =>
    exact key_ends (s := { s with panel := { s.panel with knob := (decode s.panel.knob).2 } }) k

/-- What is done for a report after the look at the job leaves what its changes leave. -/
theorem leaves_followRest {I : Panel → Prop} {r : Status} {previous : Option Status}
    (hI : ∀ change ∈ (Panel.changesFor r).tail, ∀ p, I p → I (change p)) (h : I s.panel) :
    (followRest r previous).Leaves I a s := by
  have hprobe (p : Panel) : I p → I (p.followingProbe r) := hI _ (by simp [Panel.changesFor]) p
  have hprint (p : Panel) : I p → I (p.followingPrint r) := hI _ (by simp [Panel.changesFor]) p
  have hhoming (p : Panel) : I p → I (p.followingHoming r) := hI _ (by simp [Panel.changesFor]) p
  have hmessage (p : Panel) : I p → I (p.followingMessage r) := hI _ (by simp [Panel.changesFor]) p
  have hlast (t : Scene) (ht : I t.panel) : (followMessage r).Leaves I a t :=
    (becomes_followMessage r).leaves_iff.mpr (hmessage _ ht)
  unfold followRest
  apply ((becomes_followProbe r).leaves_iff.mpr (hprobe _ h)).bind
  intro entered t ht
  rw [leaves_bind, ensures_panel]
  have hrest (u : Scene) (hu : I u.panel) : (do
      followHoming r
      if !entered then refreshStatus r previous
      followMessage r : Act Unit).Leaves I a u := by
    apply ((becomes_followHoming r).leaves_iff.mpr (hhoming _ hu)).bind
    intro _ v hv
    cases entered with
    | true => exact hlast v hv
    | false => exact ((becomes_refreshStatus r previous).leaves_iff.mpr hv).bind fun _ => hlast
  by_cases hscreen : t.panel.screen = .printProcess
  · have hfollows : (refreshPrint r).Becomes (t.panel.followingPrint r) a t := by
      rw [Panel.followingPrint, if_pos hscreen]
      exact becomes_refreshPrint r
    rw [if_pos hscreen]
    exact (hfollows.leaves_iff.mpr (hprint _ ht)).bind fun _ => hrest
  · rw [if_neg hscreen]
    exact hrest t ht

/-- However it ends, a report is noted with its job. -/
theorem heard_hear {r : Status} (hreport : a.status s.looks = some r) :
    hear.Leaves (fun q => q.lastStatus = some r ∧ q.lastJob = r.job) a s := by
  have hnoted : (reconcile r s.panel.lastStatus).Leaves
      (fun q => q.lastStatus = some r ∧ q.lastJob = r.job) a (s.heard r) := by
    rw [reconcile_eq]
    apply Leaves.bind
    · rw [(becomes_followJob r).leaves_iff]
      have hrecords := (s.heard r).panel.followingJob_records r
      exact ⟨congrArg Records.report hrecords, congrArg Records.job hrecords⟩
    · intro _ t ht
      refine leaves_followRest (fun change hchange p hp => ?_) ht
      have hrecords : (change p).records.report = p.records.report ∧
          (change p).records.job = p.records.job := by
        simp only [Panel.changesFor, List.tail_cons, List.mem_cons, List.not_mem_nil,
          or_false] at hchange
        obtain rfl | rfl | rfl | rfl := hchange
        · rw [p.followingProbe_records]; exact ⟨rfl, rfl⟩
        · rw [p.followingPrint_records]; exact ⟨rfl, rfl⟩
        · rw [p.followingHoming_records]; exact ⟨rfl, rfl⟩
        · rw [p.followingMessage_records]; exact ⟨rfl, rfl⟩
      exact ⟨hrecords.1.trans hp.1, hrecords.2.trans hp.2⟩
  have hwarns {q : Panel} (text : String) (hq : q.lastStatus = some r ∧ q.lastJob = r.job) :
      (q.withMessage text).lastStatus = some r ∧ (q.withMessage text).lastJob = r.job := by
    have hrecords := q.withMessage_records text
    exact ⟨(congrArg Records.report hrecords).trans hq.1,
      (congrArg Records.job hrecords).trans hq.2⟩
  unfold Leaves Ensures
  rw [hear_eq_of_some hreport]
  apply (hnoted.recovering hwarns).bind
  intro _ t ht
  obtain ⟨u, hu, hdrawn⟩ := countIdleTick_eq (a := a) (s := t)
  rw [Leaves, Ensures, hu]
  change u.panel.lastStatus = some r ∧ u.panel.lastJob = r.job
  rw [hdrawn.panel_eq, Panel.idled_eq]
  exact ht

end Act

namespace Panel

variable {p : Panel} {op : Operation} {a : Answers}

/-- The report that an operation reads for the panel to follow: only a tick does so. -/
def reads (p : Panel) (op : Operation) (a : Answers) : Option Status :=
  match op with
  | .tick now =>
    match Act.keyOfKnob (·.poll now) a (.opening p) with
    | .ok _ s => a.status s.looks
    | .error _ _ => none
  | _ => none

/-- The reports that the ticks of a run have read. -/
def readings (p : Panel) : List (Operation × Answers) → List Status
  | [] => []
  | (op, a) :: rest => (p.reads op a).toList ++ (p.perform op a).panel.readings rest

/-- Only a tick reads a report. -/
theorem reads_eq_some_iff {r : Status} :
    p.reads op a = some r ↔ ∃ now, op = .tick now ∧ p.Hears now a r := by
  constructor
  · intro h
    cases op with
    | tick now =>
      refine ⟨now, rfl, ?_⟩
      simp only [reads] at h
      split at h
      · next s hs => exact ⟨s, hs, h⟩
      · contradiction
    | start | key _ | rotate _ _ | sample _ _ _ | button _ _ | poll _ | message _ | iconFinder =>
      contradiction
  · rintro ⟨now, rfl, s, hs, hreport⟩
    simpa only [reads, hs] using hreport

/-- What a panel knows of the printer: the last report, its job state and its message. -/
def known (p : Panel) : Option Status × Job × String := (p.lastStatus, p.lastJob, p.lastMessage)

/-- What a panel has heard last: a report and its job state. -/
def heard (p : Panel) : Option Status × Job := (p.lastStatus, p.lastJob)

/-- What is known decides what was heard. -/
theorem heard_of_known {q : Panel} (h : q.known = p.known) : q.heard = p.heard :=
  congrArg (fun k => (k.1, k.2.1)) h

/-- The background decides what is known. -/
theorem known_of_background {q : Panel} (h : q.background = p.background) : q.known = p.known :=
  congrArg (fun b : Background => (b.report, b.job, b.message)) h

/-- The reading of the knob leaves what is known. -/
theorem known_of_attended {q : Panel} {decoded : Option Key × Knob}
    (h : q.background = p.background.attended decoded) : q.known = p.known := by
  have hknown := congrArg (fun b : Background => (b.report, b.job, b.message)) h
  unfold Background.attended at hknown
  split at hknown <;> exact hknown

/-- Only a tick hears anything. -/
theorem perform_known_of_ne (hop : ∀ now, op ≠ .tick now) :
    (p.perform op a).panel.known = p.known := by
  let kept (q : Panel) : Prop := q.known = p.known
  have hwarns {q : Panel} (text : String) (h : kept q) : kept (q.withMessage text) :=
    (known_of_background (q.background_withMessage text)).trans h
  have hact (hact : op.act.Leaves kept a (.opening p)) : kept (p.perform op a).panel :=
    (perform_iff (h := fun t => kept t.panel) p op a).mpr hact
  have hends {t : Scene} (ht : op.act a (.opening p) = .ok () t) (hkept : kept t.panel) :
      kept (p.perform op a).panel := by
    rwa [perform_eq ht]
  have hknob (decode : Knob → Option Key × Knob)
      (hop : op.act a (.opening p) = Act.keyOfKnob decode a (.opening p)) :
      kept (p.perform op a).panel := by
    obtain ⟨t, ht, hkept⟩ := Act.keyOfKnob_ends (a := a) (s := .opening p) decode
    exact hends (hop.trans ht) (known_of_attended hkept)
  cases op with
  | start =>
    refine hact (Act.Leaves.recovering (I := kept) hwarns ?_)
    rw [Act.leaves_bind, Act.ensures_panel]
    apply Act.Leaves.bind
    · exact (Act.leaves_draw _).mpr rfl
    · exact fun _ t ht => (Act.leaves_goTo _).mpr ht
  | key k =>
    obtain ⟨t, ht, hkept⟩ := Act.key_ends (a := a) (s := .opening p) k
    exact hends ht (known_of_background (p := p.awake) hkept)
  | rotate r now => exact hknob (fun k => (some (k.rotate r now).1, (k.rotate r now).2)) rfl
  | sample x y now => exact hknob (·.sample x y now) rfl
  | button down now => exact hknob (·.button down now) rfl
  | poll now => exact hknob (·.poll now) rfl
  | message text => exact hact ((Act.leaves_showMessage (I := kept) text).mpr (hwarns text rfl))
  | iconFinder =>
    let q : Panel := { p.abandonEdit with
      places := { p.abandonEdit.places with icon := .first } }
    have hgone : (Act.goTo .iconFinder).Leaves kept a (.opening q) :=
      (Act.leaves_goTo _).mpr
        (congrArg (fun r : Records => (r.report, r.job, r.message)) p.abandonEdit_records)
    exact hact (hgone.recovering hwarns)
  | tick now => exact absurd rfl (hop now)

/-- Without a report, a tick looks at the knob only. -/
theorem perform_tick_unread {now : Nat} (h : p.reads (.tick now) a = none) :
    (p.perform (.tick now) a).panel = (p.perform (.poll now) a).panel := by
  obtain ⟨s, hs, -⟩ := Act.keyOfKnob_ends (a := a) (s := .opening p) (·.poll now)
  have hreport : a.status s.looks = none := by simpa only [reads, hs] using h
  have htick : p.perform (.tick now) a = { s with looks := s.looks + 1 } :=
    perform_eq ((Act.tick_of_polled hs).trans (Act.hear_eq_of_none hreport))
  have hpoll : p.perform (.poll now) a = s := perform_eq hs
  rw [htick, hpoll]

/-- What is known of the printer stays until a report is read. -/
theorem perform_known_of_unread (h : p.reads op a = none) :
    (p.perform op a).panel.known = p.known := by
  cases op with
  | tick now =>
    rw [perform_tick_unread h]
    exact perform_known_of_ne fun _ hop => nomatch hop
  | start | key _ | rotate _ _ | sample _ _ _ | button _ _ | poll _ | message _ | iconFinder =>
    exact perform_known_of_ne fun _ hop => nomatch hop

/-- After a tick the panel has heard the report that was read. -/
theorem perform_heard_of_reads {r : Status} (h : p.reads op a = some r) :
    (p.perform op a).panel.heard = (some r, r.job) := by
  obtain ⟨now, rfl, s, hs, hreport⟩ := reads_eq_some_iff.mp h
  have hnoted : (p.perform (.tick now) a).panel.lastStatus = some r ∧
      (p.perform (.tick now) a).panel.lastJob = r.job := by
    apply (perform_iff (h := fun t => t.panel.lastStatus = some r ∧ t.panel.lastJob = r.job)
      p _ a).mpr
    change (Act.tick now).Leaves (fun q => q.lastStatus = some r ∧ q.lastJob = r.job) a _
    rw [Act.Leaves, Act.Ensures, Act.tick_of_polled hs]
    exact Act.heard_hear hreport
  exact Prod.ext hnoted.1 hnoted.2

/-- After a run the panel has heard the last report that was read, or no more than before. -/
theorem run_heard (p : Panel) (ops : List (Operation × Answers)) :
    (p.run ops).1.heard =
      ((p.readings ops).getLast?.map fun r => (some r, r.job)).getD p.heard := by
  induction ops generalizing p with
  | nil => rfl
  | cons x rest ih =>
    obtain ⟨op, a⟩ := x
    rw [run, ih, readings]
    cases hreads : p.reads op a with
    | none => simp [heard_of_known (perform_known_of_unread hreads)]
    | some r =>
      simp only [Option.toList_some, List.singleton_append, List.getLast?_cons,
        perform_heard_of_reads hreads]
      cases ((p.perform op a).panel.readings rest).getLast? <;> rfl

end Panel

end PrinterPanel
