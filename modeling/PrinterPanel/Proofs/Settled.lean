import PrinterPanel.Proofs.Priority

/-!
# Hearing the same report again

A panel that has followed a report is settled: every value that the report is compared with is that
of the report. When the same report is heard again, nothing comes up and nothing changes but the
count of idle ticks; what is live on the screen is drawn again. A message that covers the probing
page is the one exception, since probing brings its page up again.
-/

namespace PrinterPanel

open Display (Drawing)

/-- What is kept about a print agrees with a report. The button to pause does not matter under the
notice of the finished print. -/
structure PrintSession.Agrees (print : PrintSession) (r : Status) : Prop where
  finished : print.finished = r.progress.isFinished
  paused : print.completionShown = false → print.paused = r.isPaused

/-- What is kept about a print agrees with a report that was looked at. -/
theorem PrintSession.agrees_following (print : PrintSession) (r : Status) :
    (print.following r).Agrees r := by
  unfold following
  split
  · next hnew => exact ⟨(Bool.and_eq_true_iff.mp hnew).1.symm, fun hopen => nomatch hopen⟩
  · exact ⟨rfl, fun hopen => if_neg (by simpa using hopen)⟩

/-- A second look at the same progress finds nothing new. -/
theorem PrintSession.Agrees.following_eq {print : PrintSession} {r : Status} (h : print.Agrees r) :
    print.following r = print := by
  have hpaused : (if print.completionShown then print.paused else r.isPaused) = print.paused := by
    cases hshown : print.completionShown with
    | true => rfl
    | false => exact (h.paused hshown).symm
  rw [PrintSession.following, h.finished, Bool.and_not_self, if_neg Bool.false_ne_true, hpaused,
    ← h.finished]

namespace Panel

variable {p q : Panel} {r : Status}

/-! ### Settled panels -/

/-- The print screen, if it is up, agrees with a report. -/
def PrintUpToDate (p : Panel) (r : Status) : Prop :=
  p.screen = .printProcess → p.print.Agrees r

/-- The panel has followed a report, its probing left aside. -/
structure Settled (p : Panel) (r : Status) : Prop where
  job : p.lastJob = r.job
  report : p.lastStatus = some r
  message : p.lastMessage = r.message
  homing : r.homed.all = true → p.homing = none
  print : p.PrintUpToDate r

/-- The probing page is up exactly if the report tells of probing. -/
def ShowsProbing (p : Panel) (r : Status) : Prop := r.probe.isSome = (p.screen == .manualProbe)

/-- A message covers the page of a probing that goes on. -/
def HidesProbing (p : Panel) (r : Status) : Prop :=
  p.screen = .messagePopup ∧ r.probe.isSome = true

/-- The print screen agrees with a report as long as it is left alone. -/
theorem PrintUpToDate.of_screen (h : p.PrintUpToDate r) (hq : q.screen = p.screen)
    (hprint : q.print = p.print) : q.PrintUpToDate r := by
  intro hscreen
  rw [hprint]
  exact h (hq.symm.trans hscreen)

/-- Job, probing and progress bring the print screen up to date. -/
theorem printUpToDate_pressed (p : Panel) (r : Status) : (p.pressed r).PrintUpToDate r := by
  let q := (p.followingJob r).followingProbe r
  have hpressed : p.pressed r = q.followingPrint r := rfl
  intro hscreen
  have hq : q.screen = .printProcess :=
    (q.followingPrint_leftAlone r).screen.symm.trans hscreen
  rw [hpressed, followingPrint, if_pos hq]
  exact PrintSession.agrees_following _ r

/-- Waiting for the axes to be homed leaves the print screen up to date. -/
theorem PrintUpToDate.followingHoming (h : p.PrintUpToDate r) :
    (p.followingHoming r).PrintUpToDate r := by
  unfold Panel.followingHoming
  split
  · exact h
  · split
    · split
      · exact fun hscreen => nomatch hscreen
      · exact h.of_screen rfl rfl
    · exact h

/-- The message of a report leaves the print screen up to date. -/
theorem PrintUpToDate.followingMessage (h : p.PrintUpToDate r) :
    (p.followingMessage r).PrintUpToDate r := by
  unfold Panel.followingMessage
  split
  · exact h
  · obtain hsame | hshown := withMessage_cases { p with lastMessage := r.message } r.message
    · rw [hsame]
      exact h.of_screen rfl rfl
    · intro hscreen
      rw [hshown] at hscreen
      contradiction

/-- Following a report settles the panel. -/
theorem settled_following (h : p.lastStatus = some r) : (p.following r).Settled r where
  job := congrArg Records.job (p.following_records r)
  report := (congrArg Records.report (p.following_records r)).trans h
  message := congrArg Records.message (p.following_records r)
  homing hall := by
    have hhoming : (p.following r).homing = if r.homed.all then none else p.homing :=
      congrArg Records.homing (p.following_records r)
    rw [hhoming, if_pos hall]
  print := (printUpToDate_pressed p r).followingHoming.followingMessage

/-- The screen decides whether the probing page is up. -/
theorem ShowsProbing.of_screen (h : p.ShowsProbing r) (hq : q.screen = p.screen) :
    q.ShowsProbing r := by
  rw [ShowsProbing, hq]
  exact h

/-- The page that probing leaves is put away. -/
theorem showsProbing_followingProbe (p : Panel) (r : Status) :
    (p.followingProbe r).ShowsProbing r := by
  unfold followingProbe
  split
  · next hsame => exact hsame
  · unfold ShowsProbing forced
    cases r.probe.isSome with
    | true => rfl
    | false =>
      have hother (screen : Screen) : screen.after .probeEnded ≠ .manualProbe := by
        cases screen <;> decide
      exact (beq_eq_false_iff_ne.mpr (hother _)).symm

/-- Waiting for the axes to be homed leaves the probing page as it is. -/
theorem ShowsProbing.followingHoming (h : p.ShowsProbing r) :
    (p.followingHoming r).ShowsProbing r := by
  unfold Panel.followingHoming
  split
  · exact h
  · split
    · split
      · next hscreen =>
        rw [ShowsProbing, hscreen] at h
        exact h
      · exact h.of_screen rfl
    · exact h

/-- After a report the probing page is right, unless a message covers it. -/
theorem showsProbing_following (p : Panel) (r : Status) :
    (p.following r).ShowsProbing r ∨ (p.following r).HidesProbing r := by
  let q := p.beforeMessage r
  have hprobed : ((p.followingJob r).followingProbe r).ShowsProbing r :=
    showsProbing_followingProbe _ r
  have hpressed : (p.pressed r).ShowsProbing r :=
    hprobed.of_screen (followingPrint_leftAlone _ r).screen
  have hq : q.ShowsProbing r := hpressed.followingHoming
  have hfollowing : p.following r = q.followingMessage r := rfl
  rw [hfollowing, followingMessage]
  split
  · exact .inl hq
  · obtain hsame | hshown := withMessage_cases { q with lastMessage := r.message } r.message
    · rw [hsame]
      exact .inl (hq.of_screen rfl)
    · cases hprobe : r.probe.isSome with
      | true => exact .inr ⟨hshown, hprobe⟩
      | false =>
        left
        rw [ShowsProbing, hshown, hprobe]
        rfl

/-! ### The same report again -/

/-- A settled panel does not follow the same job again. -/
theorem Settled.followingJob_eq (h : p.Settled r) : p.followingJob r = p := by
  rw [followingJob]
  simp only [h.job, if_true]
  rw [← h.job]

/-- A settled panel no longer waits for the axes to be homed. -/
theorem Settled.followingHoming_eq (h : p.Settled r) : p.followingHoming r = p := by
  unfold followingHoming
  cases hall : r.homed.all with
  | true => rw [h.homing hall]
  | false => cases p.homing <;> rfl

/-- A settled panel does not show the same message again. -/
theorem Settled.followingMessage_eq (h : p.Settled r) : p.followingMessage r = p := by
  rw [followingMessage, if_pos h.message.symm]

/-- A settled panel keeps what it keeps about the print. -/
theorem Settled.followingPrint_eq (h : p.Settled r) : p.followingPrint r = p := by
  unfold followingPrint
  split
  · next hscreen => rw [(h.print hscreen).following_eq]
  · rfl

/-- Nothing but probing changes a settled panel. -/
theorem Settled.following_eq (h : p.Settled r) (hq : (p.followingProbe r).Settled r) :
    p.following r = p.followingProbe r := by
  have hfollowing : p.following r =
      ((((p.followingJob r).followingProbe r).followingPrint r).followingHoming r).followingMessage
        r := rfl
  rw [hfollowing, h.followingJob_eq, hq.followingPrint_eq, hq.followingHoming_eq,
    hq.followingMessage_eq]

/-- Probing that goes on brings its page up over a message. -/
theorem Settled.following_screen (h : p.Settled r) (hhides : p.HidesProbing r) :
    (p.following r).screen = .manualProbe := by
  have hscreen : (p.followingProbe r).screen = .manualProbe := by
    have hshows := showsProbing_followingProbe p r
    rw [ShowsProbing, hhides.2] at hshows
    exact beq_iff_eq.mp hshows.symm
  have hrecords : (p.followingProbe r).records = p.records := p.followingProbe_records r
  -- Probing changes no record, and it does not lead to the print screen.
  have hq : (p.followingProbe r).Settled r := {
    job := (congrArg Records.job hrecords).trans h.job
    report := (congrArg Records.report hrecords).trans h.report
    message := (congrArg Records.message hrecords).trans h.message
    homing := fun hall => (congrArg Records.homing hrecords).trans (h.homing hall)
    print := fun hprint => by
      rw [hscreen] at hprint
      contradiction }
  rw [h.following_eq hq, hscreen]

/-! ### What is drawn again -/

/-- The live fields of the probing page, if that is up. -/
def probeFields (p : Panel) : Drawing :=
  if p.screen = .manualProbe then p.probePicture false else []

/-- The live fields of the print screen, if that is up without the notice of a finished print. -/
def progressFields (p : Panel) (r : Status) : Drawing :=
  if p.screen = .printProcess ∧ p.print.completionShown = false then p.canvas.progress r.progress
  else []

/-- The live fields of the screen that is up. -/
def liveFields (p : Panel) (r : Status) : Drawing := p.probeFields ++ p.progressFields r

/-- The light that an idle tick dims. -/
def dimming (p : Panel) : Drawing :=
  if p.idled.dimmed = p.dimmed then [] else [.light p.settings.screen.dimBrightness]

/-- A tick that hears a report changes nothing but the count of idle ticks and whether the display
is dimmed, sends nothing, and draws live fields and the light at most. -/
def AtRest (p : Panel) (r : Status) : Prop :=
  ∀ now a, (∀ n, a.display n = none) → p.keyOf (.tick now) = none → a.status 0 = some r →
    let t := p.perform (.tick now) a
    t.panel = { p with idleTicks := t.panel.idleTicks, dimmed := t.panel.dimmed } ∧
      t.events = (p.liveFields r ++ p.dimming).map .drawn

/-- A tick reads a report. If the knob was held for long, that key comes first. -/
def Hears (p : Panel) (now : Nat) (a : Answers) (r : Status) : Prop :=
  ∃ s, Act.keyOfKnob (·.poll now) a (.opening p) = .ok () s ∧ a.status s.looks = some r

/-- A tick without a key of the knob reads the first report. -/
theorem hears_of_none {now : Nat} {a : Answers} (hpoll : p.keyOf (.tick now) = none)
    (hreport : a.status 0 = some r) : p.Hears now a r :=
  ⟨.opening p, Act.keyOfKnob_poll_eq hpoll, hreport⟩

end Panel

namespace Act

variable {a : Answers} {s : Scene} {r : Status}

section Settled

variable (h : ∀ n, a.display n = none) (hs : s.panel.Settled r)
include hs

/-- The same job brings up nothing again. -/
theorem followJob_eq : followJob r a s = .ok () s := by
  apply eq_ok
  have hsame : ({ s.panel with lastJob := r.job } : Panel) = s.panel := by rw [← hs.job]
  simp only [followJob, ensures_bind, ensures_panel, ensures_change, hsame, hs.job, ne_eq,
    not_true_eq_false, if_false, ensures_pure, and_self]

omit hs in
include h in
/-- The probing page, if it is up, draws its live fields again. -/
theorem followProbe_eq_of_shows (hshows : s.panel.ShowsProbing r) :
    followProbe r a s =
      .ok false (s.afterCalls s.panel.probeFields s.panel.probeFields.length) := by
  apply eq_ok
  unfold Panel.ShowsProbing at hshows
  simp only [followProbe, ensures_bind, ensures_panel, Panel.probeFields]
  by_cases hscreen : s.panel.screen = .manualProbe
  · simp only [hscreen, beq_self_eq_true] at hshows
    simp only [hscreen, hshows, beq_self_eq_true, if_true, ensures_bind, ensures_panel,
      ensures_draw_iff h, ensures_pure, and_self]
  · have hother : (s.panel.screen == .manualProbe) = false := beq_eq_false_iff_ne.mpr hscreen
    rw [hother] at hshows
    simp only [hother, hscreen, hshows, if_false, ensures_pure, List.length_nil,
      Scene.afterCalls_nil, and_self]

include h in
/-- The print screen draws its live fields again. -/
theorem refreshPrint_eq (hscreen : s.panel.screen = .printProcess) :
    refreshPrint r a s =
      .ok () (s.afterCalls (s.panel.progressFields r) (s.panel.progressFields r).length) := by
  have hprint : s.panel.print.Agrees r := hs.print hscreen
  have hsame : ({ s.panel with
      print := { s.panel.print with finished := r.progress.isFinished } } : Panel) = s.panel := by
    rw [← hprint.finished]
  apply eq_ok
  simp only [refreshPrint, ensures_bind, ensures_panel, ensures_change, hsame]
  simp only [hprint.finished, Bool.and_not_self, Bool.false_eq_true, if_false,
    Panel.progressFields, hscreen, true_and]
  cases hshown : s.panel.print.completionShown with
  | true => simp
  | false => simp [hprint.paused hshown, ensures_draw_iff h]

/-- The same axes bring up nothing again. -/
theorem followHoming_eq : followHoming r a s = .ok () s := by
  apply eq_ok
  simp only [followHoming, ensures_bind, ensures_panel]
  cases hall : r.homed.all with
  | true => simp [hs.homing hall]
  | false => cases s.panel.homing <;> simp

omit hs in
/-- The same report leaves the status area alone. -/
theorem refreshStatus_eq : refreshStatus r (some r) a s = .ok () s := by
  apply eq_ok
  have hsame : r.areaDiffers r = false := by simp [Status.areaDiffers]
  simp only [refreshStatus, Option.all_some, hsame, Bool.and_false, Bool.false_eq_true, if_false,
    ensures_bind, ensures_panel, ensures_pure, and_self]

/-- The same message brings up nothing again. -/
theorem followMessage_eq : followMessage r a s = .ok () s := by
  apply eq_ok
  simp [followMessage, hs.message]

end Settled

section Again

variable (h : ∀ n, a.display n = none)
include h

/-- On a settled panel, the same report draws live fields and does nothing else. -/
theorem reconcile_eq_of_settled (hs : s.panel.Settled r) (hshows : s.panel.ShowsProbing r) :
    reconcile r (some r) a s =
      .ok () (s.afterCalls (s.panel.liveFields r) (s.panel.liveFields r).length) := by
  let t := s.afterCalls s.panel.probeFields s.panel.probeFields.length
  let u := t.afterCalls (s.panel.progressFields r) (s.panel.progressFields r).length
  have ht : followProbe r a s = .ok false t := followProbe_eq_of_shows h hshows
  have hrest : (do
      followHoming r
      refreshStatus r (some r)
      followMessage r : Act Unit) a u = .ok () u := by
    have hu : u.panel.Settled r := hs
    rw [bind_eq (followHoming_eq hu), bind_eq refreshStatus_eq, followMessage_eq hu]
  have hu : u = s.afterCalls (s.panel.liveFields r) (s.panel.liveFields r).length := by
    simp only [u, t, Panel.liveFields, Scene.afterCalls_afterCalls, List.length_append]
  rw [← hu, reconcile, bind_eq (followJob_eq hs), bind_eq ht]
  have hpanel : panel a t = .ok s.panel t := rfl
  rw [bind_eq hpanel]
  by_cases hscreen : s.panel.screen = .printProcess
  · have hprint : refreshPrint r a t = .ok () u := refreshPrint_eq (s := t) h hs hscreen
    rw [if_pos hscreen, bind_eq hprint]
    exact hrest
  · have hfields : s.panel.progressFields r = [] := if_neg fun hprinting => hscreen hprinting.1
    have hsame : u = t := by simp only [u, hfields, List.length_nil, Scene.afterCalls_nil]
    rw [hsame] at hrest
    rw [if_neg hscreen, hsame]
    exact hrest

/-- A tick that dims the display does so by one call. -/
theorem countIdleTick_dims :
    countIdleTick a s =
      .ok () (({ s with panel := s.panel.idled }).afterCalls s.panel.dimming
        s.panel.dimming.length) := by
  have hdimming : s.dimming a = s.panel.dimming := by
    rw [Scene.dimming, Answers.lit, if_pos (h _), Panel.dimming]
  have hcalls : (if s.panel.idled.dimmed = s.panel.dimmed then 0 else 1) =
      s.panel.dimming.length := by
    unfold Panel.dimming
    split <;> rfl
  rw [countIdleTick_counted, Scene.counted, hdimming, hcalls]

/-- A settled panel hears its report again. -/
theorem hear_eq_of_settled (hs : s.panel.Settled r) (hshows : s.panel.ShowsProbing r)
    (hreport : a.status s.looks = some r) :
    hear a s =
      .ok () (({ s with panel := s.panel.idled, looks := s.looks + 1 }).afterCalls
        (s.panel.liveFields r ++ s.panel.dimming)
        (s.panel.liveFields r ++ s.panel.dimming).length) := by
  let heard : Scene := { s with looks := s.looks + 1 }
  let drawn : Scene := heard.afterCalls (s.panel.liveFields r) (s.panel.liveFields r).length
  have hheard : s.heard r = heard := by rw [Scene.heard, ← hs.report]
  have hreconciled : reconcile r (some r) a heard = .ok () drawn :=
    reconcile_eq_of_settled (s := heard) h hs hshows
  have hrecovered : recovering (reconcile r (some r)) a heard = .ok () drawn := by
    rw [recovering_eq, hreconciled]
  rw [hear_eq_of_some hreport, hs.report, hheard, bind_eq hrecovered, countIdleTick_dims h]
  simp only [drawn, heard, Scene.afterCalls, List.map_append, List.append_assoc,
    List.length_append, Nat.add_assoc]

end Again

end Act

namespace Panel

variable {p : Panel} {r : Status} {now : Nat} {a : Answers}

/-- A settled panel is at rest unless a message covers the probing page. -/
theorem Settled.atRest (h : p.Settled r) (hshows : p.ShowsProbing r) : p.AtRest r := by
  intro now a hdisplay hpoll hreport t
  let u : Scene := ({ Scene.opening p with panel := p.idled, looks := 1 }).afterCalls
    (p.liveFields r ++ p.dimming) (p.liveFields r ++ p.dimming).length
  have hhear : Act.hear a (.opening p) = .ok () u :=
    Act.hear_eq_of_settled (s := .opening p) hdisplay h hshows hreport
  have htick : Act.tick now a (.opening p) = .ok () u := by
    rw [Act.tick_eq, Act.bind_eq (Act.keyOfKnob_poll_eq (s := .opening p) hpoll), hhear]
  have ht : p.perform (.tick now) a = u := perform_eq htick
  have hsame : t = u := ht
  rw [hsame]
  exact ⟨p.idled_eq, rfl⟩

/-- A tick that reads a report settles the panel. -/
theorem Hears.settles (h : p.Hears now a r) (hdisplay : ∀ n, a.display n = none) :
    let q := (p.perform (.tick now) a).panel
    q.Settled r ∧ (q.ShowsProbing r ∨ q.HidesProbing r) := by
  intro q
  obtain ⟨s, hpoll, hreport⟩ := h
  have hq : q = ((s.heard r).panel.following r).idled := tick_follows hdisplay hpoll hreport
  have hsettled : ((s.heard r).panel.following r).Settled r := settled_following rfl
  rw [hq, idled_eq]
  exact ⟨⟨hsettled.job, hsettled.report, hsettled.message, hsettled.homing, hsettled.print⟩,
    showsProbing_following _ r⟩

/-- If two ticks in a row read the same report, on a display that does not fail and without a long
press at the second one, the second tick changes nothing but the count of idle ticks and the light,
sends nothing and draws no more than live fields and the light. The one exception is a message that
the first tick leaves over a probing that goes on: then the second tick brings up the probing page,
and the third one changes nothing. -/
theorem tick_again (hdisplay : ∀ n, a.display n = none) (hheard : p.Hears now a r) :
    let q := (p.perform (.tick now) a).panel
    (¬ q.HidesProbing r → q.AtRest r) ∧
      (q.HidesProbing r → ∀ later b, (∀ n, b.display n = none) → q.keyOf (.tick later) = none →
        b.status 0 = some r →
        let t := (q.perform (.tick later) b).panel
        t.screen = .manualProbe ∧ t.AtRest r) := by
  intro q
  obtain ⟨hsettled, hprobe⟩ := hheard.settles hdisplay
  constructor
  · intro hopen
    exact hsettled.atRest (hprobe.resolve_right hopen)
  · intro hhides later b hdisplay' hpoll hreport t
    have ht : t = (({ q with lastStatus := some r } : Panel).following r).idled :=
      tick_follows (s := .opening q) hdisplay' (Act.keyOfKnob_poll_eq hpoll) hreport
    have hsame : ({ q with lastStatus := some r } : Panel) = q := by rw [← hsettled.report]
    have hscreen : t.screen = .manualProbe := by
      rw [ht, hsame, idled_eq]
      exact hsettled.following_screen hhides
    obtain ⟨hsettled', hprobe'⟩ := (hears_of_none hpoll hreport).settles hdisplay'
    refine ⟨hscreen, hsettled'.atRest (hprobe'.resolve_right fun hhides' => ?_)⟩
    have hmessage : t.screen = .messagePopup := hhides'.1
    rw [hscreen] at hmessage
    contradiction

/-- A message over the begin of probing, which the next tick brings up again. -/
theorem tick_again_probing :
    let p := Panel.ofSettings .standard 240 320
    let r := { Status.atRest with probe := some 0, message := "Probing" }
    let a := { Answers.smooth with status := fun _ => some r }
    (∀ n, a.display n = none) ∧ p.Hears 0 a r ∧ (p.perform (.tick 0) a).panel.HidesProbing r ∧
      ((p.perform (.tick 0) a).panel.perform (.tick 0) a).panel.screen = .manualProbe ∧
      ((p.perform (.tick 0) a).panel.perform (.tick 0) a).panel.AtRest r := by
  intro p r a
  have hdisplay : ∀ n, a.display n = none := fun _ => rfl
  have hpoll : p.keyOf (.tick 0) = none := by decide +kernel
  have hheard : p.Hears 0 a r := hears_of_none hpoll rfl
  have hscreen : (p.perform (.tick 0) a).panel.screen = .messagePopup := by decide +kernel
  have hhides : (p.perform (.tick 0) a).panel.HidesProbing r := ⟨hscreen, rfl⟩
  have hpoll' : (p.perform (.tick 0) a).panel.keyOf (.tick 0) = none := by decide +kernel
  have hagain := (tick_again hdisplay hheard).2 hhides 0 a hdisplay hpoll' rfl
  exact ⟨hdisplay, hheard, hhides, hagain⟩

end Panel

end PrinterPanel
