import PrinterPanel.Proofs.Commands
import PrinterPanel.Proofs.Messages

/-!
# The way back from homing

Homing is asked for by an entry of the prepare menu, and what was asked for outlives the screen that
is shown meanwhile: a message or a change of the job may take the user elsewhere. While the screen
for homing is up, the request is there, so that the report which finds all axes homed leads back to
the entry. On any other screen that report closes the request and is not seen otherwise.
-/

namespace PrinterPanel

open Menu

/-! ### The entry that asks for homing -/

/-- The entry that asks for homing is in the prepare menu, whatever the printer is equipped with. -/
theorem Menu.PrepareItem.getElem?_home (f : Features) :
    (PrepareItem.list f)[positionOf (PrepareItem.list f) .home]? = some .home := by
  unfold PrepareItem.list
  split <;> rfl

namespace Panel

/-- The position of the entry that asks for homing. -/
def homePosition (p : Panel) : Nat := positionOf (PrepareItem.list p.settings.features) .home

/-- Homing that is waited for was asked for by its entry of the prepare menu. -/
def AsksAtHome (p : Panel) : Prop :=
  ∀ request ∈ p.homing,
    (PrepareItem.list p.settings.features)[request.position]? = some .home

/-- Only the entry for homing asks for it. -/
theorem invariant_asksAtHome : Invariant AsksAtHome where
  attends _ _ _ _ h _ := h
  notes _ _ _ h := h
  tracks _ _ h := h
  homes h hitem := by
    rintro _ ⟨⟩
    exact hitem
  homed h := by simp [AsksAtHome]
  moves h _ := h
  lists _ h _ _ := h
  goes _ h _ _ := h
  covers _ h _ _ := h
  returns _ h _ _ := h
  edits _ _ _ h _ _ := h
  adjusts _ _ h _ := h
  leaves h := by
    unfold abandonEdit
    split <;> exact h
  stores _ h := h

/-- While the screen for homing is up, homing is waited for. -/
structure HomingFits (p : Panel) : Prop where
  caller : p.CallerFits
  asked : p.screen = .homing → p.homing.isSome

variable {p q : Panel} {r : Status} {a : Answers}

/-- No change for a report puts up the screen for homing. -/
theorem Shift.screen_eq_homing (h : p.Shift q) (hedits : p.EditsInMenus) (hq : q.screen = .homing) :
    p.screen = .homing := by
  obtain halone | hmessage | ⟨-, hprepare⟩ | ⟨-, hforced | ⟨e, he, hreturn⟩⟩ := h
  · exact halone.screen.symm.trans hq
  · rw [hq] at hmessage
    contradiction
  · rw [hq] at hprepare
    contradiction
  · rw [hq] at hforced
    simp at hforced
  · exact absurd (hreturn.symm.trans hq) (hedits.returnTo_ne (by decide) e he)

/-- Homing that is waited for fits its screen as long as no key is pressed. -/
theorem persists_homingFits : Persists HomingFits where
  attends latch knob idleTicks dimmed h hlatch :=
    ⟨persists_callerFits.attends latch knob idleTicks dimmed h.caller hlatch, h.asked⟩
  hears _ h := ⟨persists_callerFits.hears _ h.caller, h.asked⟩
  warns {p} text h := by
    obtain hsame | hup := p.withMessage_cases text
    · rwa [hsame]
    · exact ⟨persists_callerFits.warns text h.caller, by simp [hup]⟩
  follows {p r change} hchange h := by
    refine ⟨persists_callerFits.follows hchange h.caller, fun hup => ?_⟩
    have hbefore : p.screen = .homing :=
      (shift_of_mem hchange p).screen_eq_homing h.caller.edits hup
    have hkept {f : Panel → Panel} (hrecords : (f p).records.homing = p.homing) :
        (f p).homing.isSome := by
      rw [← h.asked hbefore, ← hrecords]
      rfl
    simp only [changesFor, List.mem_cons, List.not_mem_nil, or_false] at hchange
    obtain rfl | rfl | rfl | rfl | rfl := hchange
    · exact hkept (by rw [followingJob_records]; rfl)
    · exact hkept (by rw [followingProbe_records]; rfl)
    · exact hkept (by rw [followingPrint_records]; rfl)
    · -- Homing that is complete leads on to the prepare menu.
      have hscreen := (p.followingHoming_brings r).screen
      have hrecords := congrArg Records.homing (p.followingHoming_records r)
      unfold homingBringsUp at hscreen
      cases hall : r.homed.all with
      | false => exact hkept (by rw [hrecords, hall]; rfl)
      | true =>
        simp only [hbefore, h.asked hbefore, hall, and_self, if_true, Option.getD_some] at hscreen
        rw [hup] at hscreen
        contradiction
    · exact hkept (by rw [followingMessage_records]; rfl)
  browses {p} h := ⟨persists_callerFits.browses h.caller, by simp⟩

/-- The screen for homing is put up in the prepare menu only. -/
theorem CallerFits.homing_of_exits (h : p.CallerFits) (hq : q.showing ∈ p.exits)
    (hup : q.screen = .homing) : p.screen = .homing ∨ p.screen = .prepare := by
  have hcases := h.cases_of_exits hq (by simp [hup])
  simpa [hup] using hcases

end Panel

namespace Act

variable {a : Answers} {s : Scene}

/-- The entry of the prepare menu that puts up the screen for homing asks for it first. -/
theorem asked_prepare (hscreen : s.panel.screen = .prepare) (symbol : Symbol) :
    (handle .prepare symbol).Leaves (fun q => q.screen = .homing → q.homing.isSome) a s := by
  have hother {q : Panel} (hq : q.screen = .prepare) : q.screen = .homing → q.homing.isSome := by
    simp [hq]
  change (listKey .prepare enterPrepare symbol).Leaves _ a s
  unfold listKey
  split
  · simp only [turnList, leaves_bind, ensures_panel, ensures_change]
    split
    · exact (leaves_draw _).mpr (hother hscreen)
    · exact hother hscreen
  · split
    · apply leaves_withEntry (hother hscreen)
      intro item _
      cases item with
      | back => simp [backToMainMenu]
      | move =>
        simp only [leaves_bind, ensures_send]
        exact ⟨fun _ => by simp [openList, ListMenu.screen], fun _ _ => hother hscreen⟩
      | disableSteppers => exact (leaves_send _).mpr (hother hscreen)
      | home =>
        simp only [leaves_bind, ensures_send, ensures_change, leaves_goTo]
        exact ⟨fun _ _ => rfl, fun _ _ => hother hscreen⟩
      | zOffset => simp [beginEdit, Field.screen]
      | preheatPla | preheatTpu => exact leaves_preheat (hother hscreen)
      | cooldown =>
        simp only [leaves_bind, ensures_send, leaves_send]
        exact ⟨fun _ => ⟨fun _ => hother hscreen, fun _ _ => hother hscreen⟩,
          fun _ _ => hother hscreen⟩
    · exact hother hscreen

/-- The handling of a key asks for homing before it shows the screen for it. -/
theorem homingFits_handle (h : s.panel.HomingFits) (symbol : Symbol) :
    (handle s.panel.screen symbol).Leaves Panel.HomingFits a s := by
  have hasked : (handle s.panel.screen symbol).Leaves
      (fun q => q.screen = .homing → q.homing.isSome) a s := by
    by_cases hhoming : s.panel.screen = .homing
    · rw [hhoming]
      exact fun _ => h.asked hhoming
    · by_cases hprepare : s.panel.screen = .prepare
      · rw [hprepare]
        exact asked_prepare hprepare symbol
      · have hnowhere {q : Panel} (hq : q.showing ∈ s.panel.exits) :
            q.screen = .homing → q.homing.isSome := by
          intro hup
          obtain hscreen | hscreen := h.caller.homing_of_exits hq hup
          · exact absurd hscreen hhoming
          · exact absurd hscreen hprepare
        exact (leadsTo_handle symbol).mono (fun _ _ ht => hnowhere ht) fun _ _ ht => hnowhere ht
  apply ((callerFits_handle h.caller symbol).and hasked).mono
  · exact fun _ _ ht => ⟨ht.1, ht.2⟩
  · exact fun _ _ ht => ⟨ht.1, ht.2⟩

end Act

namespace Panel

variable {p : Panel} {r : Status} {a : Answers} {op : Operation}

/-- On every panel that can be reached, the screen for homing is up only while homing is waited
for. -/
theorem Reachable.homingFits (h : p.Reachable) : p.HomingFits := by
  induction h with
  | started s width height a =>
    have hnew : (ofSettings s width height).HomingFits :=
      ⟨callerFits_ofSettings s width height, by simp [ofSettings]⟩
    exact persists_homingFits.perform (fun _ => hnew) (by simp [keyOf]) fun _ => hnew
  | operated a _ hop ih =>
    have hhandle (s : Scene) (symbol : Symbol) (hs : s.panel.HomingFits) :
        (Act.handle s.panel.screen symbol).Leaves HomingFits a s :=
      Act.homingFits_handle hs symbol
    exact persists_homingFits.perform_of_handle hhandle (absurd · hop) ih

/-- While the screen for homing is up, homing is waited for, and its entry is the one to return
to. -/
theorem Reachable.homing_eq (h : p.Reachable) (hscreen : p.screen = .homing) :
    p.homing = some ⟨p.homePosition⟩ := by
  obtain ⟨request, hrequest⟩ := Option.isSome_iff_exists.mp (h.homingFits.asked hscreen)
  have hasked : p.AsksAtHome := by
    refine invariant_asksAtHome.reachable (fun s width height => ?_) h
    simp [AsksAtHome, ofSettings]
  have hposition : p.homePosition = request.position :=
    positionOf_of_getElem? (PrepareItem.nodup_list _) (hasked request hrequest)
  rw [hrequest, hposition]

/-! ### Changes that a failing display cuts short -/

/-- The panel after the first changes for a report. -/
theorem after_cases {made : List (Panel → Panel)} (h : made <+: changesFor r) :
    p.after made ∈ [p, p.followingJob r, (p.followingJob r).followingProbe r, p.pressed r,
      p.beforeMessage r, p.following r] := by
  simp only [changesFor, List.prefix_cons_iff, List.prefix_nil] at h
  obtain rfl | ⟨_, rfl, rfl | ⟨_, rfl, rfl | ⟨_, rfl, rfl | ⟨_, rfl, rfl | ⟨_, rfl, rfl⟩⟩⟩⟩⟩ := h
  all_goals simp [after, pressed, beforeMessage, following, changesFor]

/-- A report that brings up nothing leaves the user alone also if a display call fails. -/
theorem after_leftAlone (hedits : p.EditSession) (hcaller : p.CallerFits)
    (h : p.demanded r = none) {made : List (Panel → Panel)} (hmade : made <+: changesFor r) :
    p.LeftAlone (p.after made) := by
  obtain ⟨-, hurgent⟩ := urgent_of_demanded h (by simp)
  obtain ⟨hpressing, -⟩ := Option.or_eq_none_iff.mp hurgent
  have hjob : p.LeftAlone (p.followingJob r) := by
    apply (p.followingJob_brings r).alone
    unfold pressing at hpressing
    split at hpressing
    · contradiction
    · exact (Option.or_eq_none_iff.mp hpressing).1
  have hpressed : p.LeftAlone (p.pressed r) := (pressed_brings hedits hcaller r).alone hpressing
  have hbefore : p.LeftAlone (p.beforeMessage r) := (urgent_brings hedits hcaller r).alone hurgent
  have hall : p.LeftAlone (p.following r) := following_leftAlone hedits hcaller h
  have hcases := after_cases (p := p) hmade
  simp only [List.mem_cons, List.not_mem_nil, or_false] at hcases
  obtain hsame | hsame | hsame | hsame | hsame | hsame := hcases <;> rw [hsame]
  · exact .refl p
  · exact hjob
  · exact hpressed.trans (followingPrint_leftAlone _ r).symm
  · exact hpressed
  · exact hbefore
  · exact hall

/-- The panel that follows the report of a tick: a key that the knob makes comes first. -/
def hearing (p : Panel) (now : Nat) (a : Answers) (r : Status) : Panel :=
  { (p.perform (.poll now) a).panel with lastStatus := some r }

/-- The panel that follows a report has its edits in order. -/
theorem Reachable.editSession_hearing (h : p.Reachable) (now : Nat) (a : Answers) (r : Status) :
    (p.hearing now a r).EditSession :=
  invariant_editSession.persists.hears r (h.operated a (by simp)).editSession

/-- The panel that follows a report remembers a fitting caller. -/
theorem Reachable.callerFits_hearing (h : p.Reachable) (now : Nat) (a : Answers) (r : Status) :
    (p.hearing now a r).CallerFits :=
  persists_callerFits.hears r (h.operated a (by simp)).callerFits

/-- A tick makes the changes for its report, or those that come before a display call that fails. -/
theorem perform_tick_after {now : Nat} (h : p.reads (.tick now) a = some r) :
    ∃ made, made <+: changesFor r ∧ ((∀ n, a.display n = none) → made = changesFor r) ∧
      (p.perform (.tick now) a).panel = ((p.hearing now a r).after made).idled := by
  obtain ⟨now', hop, s, hs, hreport⟩ := reads_eq_some_iff.mp h
  cases hop
  have htick : Act.tick now a (.opening p) = Act.hear a s := Act.tick_of_polled hs
  have hpoll : p.perform (.poll now) a = s := perform_eq hs
  rw [hearing, hpoll]
  by_cases hdisplay : ∀ n, a.display n = none
  · obtain ⟨t, ht, hpanel⟩ := Act.hear_follows hdisplay hreport
    refine ⟨changesFor r, List.prefix_refl _, fun _ => rfl, ?_⟩
    have hend : p.perform (.tick now) a = t := perform_eq (htick.trans ht)
    rw [hend, hpanel]
    rfl
  · obtain ⟨t, made, ht, hmade, hdrawn⟩ := Act.hear_ends hreport
    refine ⟨made, hmade, fun hnever => absurd hnever hdisplay, ?_⟩
    have hend : p.perform (.tick now) a = t := perform_eq (htick.trans ht)
    rw [hend, hdrawn.panel_eq]
    rfl

/-! ### Waiting -/

/-- Nothing has changed but what the knob has to do with, how long the user has been away, and the
report that was heard last. -/
def Attended (p q : Panel) : Prop :=
  ∃ latch knob idleTicks dimmed report,
    q = { p with
      latch := latch, knob := knob, idleTicks := idleTicks, dimmed := dimmed, lastStatus := report }

/-- A key does nothing but wake the panel while the screen for homing is up. -/
theorem key_homing {s : Scene} (hscreen : s.panel.screen = .homing) (k : Key) :
    Act.key k a s = .ok () (Act.woken s (s.waking a)) := by
  rw [Act.key_eq_waking, hscreen]
  rfl

/-- Nothing is done for the knob while the screen for homing is up. -/
theorem attended_homing (hscreen : p.screen = .homing) (hop : op.ofKnob) :
    p.Attended (p.perform op a).panel := by
  obtain ⟨knob, hact⟩ := act_of_ofKnob hop
  cases hkey : p.keyOf op with
  | none =>
    rw [hkey] at hact
    rw [perform_eq (hact a)]
    exact ⟨p.latch, knob, p.idleTicks, p.dimmed, p.lastStatus, rfl⟩
  | some k =>
    rw [hkey] at hact
    rw [perform_eq ((hact a).trans (key_homing hscreen k))]
    exact ⟨.empty, knob, 0, false, p.lastStatus, rfl⟩

/-- On the screen for homing, a key before a report does nothing. -/
theorem attended_hearing (hscreen : p.screen = .homing) (now : Nat) (a : Answers) (r : Status) :
    p.Attended (p.hearing now a r) := by
  have hpolled : p.Attended (p.perform (.poll now) a).panel := attended_homing hscreen rfl
  obtain ⟨latch, knob, idleTicks, dimmed, report, hpolled⟩ := hpolled
  exact ⟨latch, knob, idleTicks, dimmed, some r, by rw [hearing, hpolled]⟩

/-- What a report brings up does not depend on the knob. -/
theorem Attended.demanded_eq {q : Panel} (h : p.Attended q) (r : Status) :
    q.demanded r = p.demanded r := by
  obtain ⟨latch, knob, idleTicks, dimmed, report, rfl⟩ := h
  rfl

/-- Attending to the knob leaves the screen up. -/
theorem Attended.screen_eq {q : Panel} (h : p.Attended q) : q.screen = p.screen := by
  obtain ⟨latch, knob, idleTicks, dimmed, report, rfl⟩ := h
  rfl

/-- Attending to the knob does not end the waiting. -/
theorem Attended.homing_eq {q : Panel} (h : p.Attended q) : q.homing = p.homing := by
  obtain ⟨latch, knob, idleTicks, dimmed, report, rfl⟩ := h
  rfl

/-- Attending to the knob moves no cursor. -/
theorem Attended.places_eq {q : Panel} (h : p.Attended q) : q.places = p.places := by
  obtain ⟨latch, knob, idleTicks, dimmed, report, rfl⟩ := h
  rfl

/-- An operation that lets homing go on: one of the knob, or a tick with no report or with one that
brings up nothing. -/
def Awaits (p : Panel) (op : Operation) (a : Answers) : Prop :=
  match op with
  | .tick now => ∀ r ∈ p.reads (.tick now) a, p.demanded r = none
  | op => op.ofKnob = true

instance : Decidable (p.Awaits op a) :=
  match op with
  | .tick now => inferInstanceAs (Decidable (∀ r ∈ p.reads (.tick now) a, p.demanded r = none))
  | .start | .key _ | .rotate .. | .sample .. | .button .. | .poll _ | .message _ | .iconFinder =>
    inferInstanceAs (Decidable (_ = _))

/-- Switching on does not wait for anything. -/
theorem Awaits.ne_start (hop : p.Awaits op a) : op ≠ .start := by
  rintro rfl
  contradiction

/-- The screen for homing stays up while homing goes on. -/
theorem Awaits.screen_eq (hop : p.Awaits op a) (h : p.Reachable) (hscreen : p.screen = .homing) :
    (p.perform op a).panel.screen = .homing := by
  have hknob {op : Operation} (hop : op.ofKnob) : (p.perform op a).panel.screen = .homing :=
    (attended_homing hscreen hop).screen_eq.trans hscreen
  cases op with
  | tick now =>
    cases hreads : p.reads (.tick now) a with
    | none =>
      rw [perform_tick_unread hreads]
      exact hknob rfl
    | some r =>
      have hattended := attended_hearing hscreen now a r
      have hdemanded : (p.hearing now a r).demanded r = none :=
        (hattended.demanded_eq r).trans (hop r hreads)
      obtain ⟨made, hmade, -, hq⟩ := perform_tick_after hreads
      have halone := after_leftAlone (h.editSession_hearing now a r)
        (h.callerFits_hearing now a r) hdemanded hmade
      rw [hq, idled_eq]
      exact halone.screen.trans (hattended.screen_eq.trans hscreen)
  | start | message _ | iconFinder => contradiction
  | key _ | rotate _ _ | sample _ _ _ | button _ _ | poll _ => exact hknob rfl

/-! ### The end of homing -/

/-- Homing that is complete is not waited for after a report. -/
theorem following_homing (p : Panel) (hall : r.homed.all = true) : (p.following r).homing = none :=
  (congrArg Records.homing (p.following_records r)).trans (if_pos hall)

/-- The report that finds all axes homed leads from the screen for homing to the entry that asked
for it, if the report has nothing else to say and no display call fails. -/
theorem Reachable.tick_homed (h : p.Reachable) (hscreen : p.screen = .homing) {now : Nat}
    (hreads : p.reads (.tick now) a = some r) (hall : r.homed.all = true) (hjob : r.job = p.lastJob)
    (hprobe : r.probe = none) (hmessage : ¬ p.Announces r) (hdisplay : ∀ n, a.display n = none) :
    let q := (p.perform (.tick now) a).panel
    q.screen = .prepare ∧ q.homing = none ∧
      q.places = p.places.select .prepare p.homePosition := by
  intro q
  have hhoming : p.homing = some ⟨p.homePosition⟩ := h.homing_eq hscreen
  have hprepare : p.demanded r = some .prepare := by
    simp [demanded, hmessage, urgent, pressing, hprobe, Job.bringsUp, hjob, hscreen,
      homingBringsUp, hhoming, hall]
  have hattended := attended_hearing hscreen now a r
  have hedits := h.editSession_hearing now a r
  have hcaller := h.callerFits_hearing now a r
  have hdemanded : (p.hearing now a r).demanded r = some .prepare :=
    (hattended.demanded_eq r).trans hprepare
  obtain ⟨made, -, hwhole, hq⟩ := perform_tick_after hreads
  obtain ⟨hup, -⟩ := showing_eq_iff.mp (following_showing hedits hcaller r)
  obtain ⟨request, hrequest, hplaces⟩ := following_prepare hedits hcaller hdemanded
  rw [hwhole hdisplay, idled_eq] at hq
  rw [hdemanded] at hup
  refine ⟨(congrArg Panel.screen hq).trans hup,
    (congrArg Panel.homing hq).trans (following_homing _ hall), ?_⟩
  rw [hattended.homing_eq, hhoming] at hrequest
  cases hrequest
  rw [hattended.places_eq] at hplaces
  exact (congrArg Panel.places hq).trans hplaces

/-! ### Homing that ends unseen -/

/-- The job moves no cursor but that of the print screen. -/
theorem followingJob_places (p : Panel) (r : Status) :
    (p.followingJob r).places = { p.places with print := (p.followingJob r).places.print } := by
  unfold followingJob
  dsimp only
  split
  · rfl
  · cases r.job with
    | printing =>
      dsimp only
      split
      · rfl
      · simp [printStarted]
    | paused => rfl
    | standby | complete | cancelled | error => simp

/-- Following the probing moves no cursor. -/
@[simp] theorem followingProbe_places (p : Panel) (r : Status) :
    (p.followingProbe r).places = p.places := by
  unfold followingProbe
  split
  · rfl
  · simp

/-- Following the message of a report moves no cursor. -/
@[simp] theorem followingMessage_places (p : Panel) (r : Status) :
    (p.followingMessage r).places = p.places := by
  unfold followingMessage
  split
  · rfl
  · simp

/-- On any other screen, homing that is complete is not waited for any more, and that is all. -/
theorem followingHoming_elsewhere (hscreen : p.screen ≠ .homing) (hall : r.homed.all = true) :
    p.followingHoming r = { p with homing := none } := by
  unfold followingHoming
  cases hhoming : p.homing with
  | none =>
    dsimp only
    rw [← hhoming]
  | some request =>
    dsimp only
    rw [if_pos hall, if_neg hscreen]

/-- Job, probing and progress move no cursor but that of the print screen. -/
theorem pressed_places (p : Panel) (r : Status) :
    (p.pressed r).places = { p.places with print := (p.pressed r).places.print } := by
  have hsame : (p.pressed r).places = (p.followingJob r).places := by
    rw [pressed, (followingPrint_leftAlone _ r).places, followingProbe_places]
  rw [hsame]
  exact p.followingJob_places r

/-- Elsewhere, what comes up does not depend on homing. -/
theorem demanded_elsewhere (h : p.screen = .homing → p.pressing r ≠ none) :
    p.demanded r = ({ p with homing := none } : Panel).demanded r := by
  have hurgent : p.urgent r = ({ p with homing := none } : Panel).urgent r := by
    have hpressing : ({ p with homing := none } : Panel).pressing r = p.pressing r := rfl
    unfold urgent
    rw [hpressing]
    cases hup : p.pressing r with
    | some screen => rfl
    | none =>
      have hscreen : p.screen ≠ .homing := fun hhoming => h hhoming hup
      simp [homingBringsUp, hscreen]
  unfold demanded
  rw [hurgent]
  rfl

/-- Homing that is found complete while another screen is up is not waited for any more, however far
the changes for the report come. Of the places none changes but that of the print screen. -/
theorem after_elsewhere (hscreen : (p.pressed r).screen ≠ .homing) (hall : r.homed.all = true)
    {made : List (Panel → Panel)} (hmade : made <+: changesFor r) :
    ((p.after made).homing = none ∨ (p.after made).homing = p.homing) ∧
      (p.after made).places = { p.places with print := (p.after made).places.print } := by
  have hjob : (p.followingJob r).homing = p.homing :=
    congrArg Records.homing (p.followingJob_records r)
  have hprobe : ((p.followingJob r).followingProbe r).homing = p.homing :=
    (congrArg Records.homing (followingProbe_records _ r)).trans hjob
  have hbefore : p.beforeMessage r = { p.pressed r with homing := none } :=
    followingHoming_elsewhere hscreen hall
  have hfollowing : p.following r = (p.beforeMessage r).followingMessage r := rfl
  have hplaces : (p.following r).places = (p.pressed r).places := by
    rw [hfollowing, followingMessage_places, hbefore]
  have hcases := after_cases (p := p) hmade
  simp only [List.mem_cons, List.not_mem_nil, or_false] at hcases
  obtain hsame | hsame | hsame | hsame | hsame | hsame := hcases <;> rw [hsame]
  · exact ⟨.inr rfl, rfl⟩
  · exact ⟨.inr hjob, p.followingJob_places r⟩
  · rw [followingProbe_places]
    exact ⟨.inr hprobe, p.followingJob_places r⟩
  · exact ⟨.inr (p.pressed_homing r), p.pressed_places r⟩
  · rw [hbefore]
    exact ⟨.inl rfl, p.pressed_places r⟩
  · rw [hplaces]
    exact ⟨.inl (p.following_homing hall), p.pressed_places r⟩

/-- Homing that is found complete while another screen is up is not waited for any more, unless a
display call fails before that. The screen is the one that the report brings up besides, and no
cursor moves but that of a print that starts. -/
theorem Reachable.tick_homed_elsewhere (h : p.Reachable) {now : Nat}
    (hreads : p.reads (.tick now) a = some r) (hall : r.homed.all = true)
    (helsewhere : (p.hearing now a r).screen = .homing → (p.hearing now a r).pressing r ≠ none) :
    let t := p.hearing now a r
    let q := (p.perform (.tick now) a).panel
    (q.homing = none ∨ q.homing = t.homing ∧ ¬ ∀ n, a.display n = none) ∧
      q.places = { t.places with print := q.places.print } ∧
      (t.demanded r = none → q.screen = t.screen ∧ q.places = t.places) ∧
      ((∀ n, a.display n = none) →
        q.screen = (({ t with homing := none } : Panel).demanded r).getD t.screen) := by
  intro t q
  have hedits : t.EditSession := h.editSession_hearing now a r
  have hcaller : t.CallerFits := h.callerFits_hearing now a r
  have hscreen : (t.pressed r).screen ≠ .homing := by
    rw [(pressed_brings hedits hcaller r).screen]
    cases hup : t.pressing r with
    | none => exact fun hhoming => helsewhere hhoming hup
    | some screen =>
      rintro rfl
      exact absurd (pressing_mem hup) (by decide)
  obtain ⟨made, hmade, hwhole, hq⟩ := perform_tick_after hreads
  obtain ⟨hhoming, hplaces⟩ := after_elsewhere hscreen hall hmade
  have hsame : q = { t.after made with
      idleTicks := (t.after made).idled.idleTicks, dimmed := (t.after made).idled.dimmed } :=
    hq.trans (idled_eq _)
  clear_value q
  subst hsame
  refine ⟨?_, hplaces, fun hnone => ?_, fun hdisplay => ?_⟩
  · by_cases hdisplay : ∀ n, a.display n = none
    · left
      rw [hwhole hdisplay]
      exact t.following_homing hall
    · exact hhoming.imp_right fun hopen => ⟨hopen, hdisplay⟩
  · have halone := after_leftAlone hedits hcaller hnone hmade
    exact ⟨halone.screen, halone.places⟩
  · rw [← demanded_elsewhere helsewhere, hwhole hdisplay]
    exact (showing_eq_iff.mp (following_showing hedits hcaller r)).1

/-! ### Any panel that can be reached -/

/-- While the screen for homing is up, homing is waited for, its entry is the one to return to, and
no key does anything. However long that lasts, the report that finds all axes homed brings up the
prepare menu with the cursor on that entry and in the window, if nothing else comes up and no
display call fails. On any other screen such a report ends the waiting, and neither screen nor
cursors depend on it. -/
theorem Reachable.homing_returns (h : p.Reachable) :
    (p.screen = .homing →
      p.homing = some ⟨positionOf (PrepareItem.list p.settings.features) .home⟩ ∧
      (∀ k a, (p.perform (.key k) a).panel = { p with idleTicks := 0, dimmed := false } ∧
        submitted (p.perform (.key k) a).events = []) ∧
      ∀ ops now a r, p.Throughout Awaits ops →
        let t := (p.run ops).1
        let q := (t.perform (.tick now) a).panel
        t.reads (.tick now) a = some r → r.homed.all = true → r.job = t.lastJob →
          r.probe = none → ¬ t.Announces r → (∀ n, a.display n = none) →
          t.screen = .homing ∧ q.screen = .prepare ∧ q.homing = none ∧
            (PrepareItem.list q.settings.features)[q.places.prepare.position]? = some .home ∧
            q.places.prepare.Fits (q.entryCount .prepare)) ∧
    ∀ now a r, p.reads (.tick now) a = some r → r.homed.all = true →
      let t := p.hearing now a r
      let q := (p.perform (.tick now) a).panel
      (t.screen = .homing → t.pressing r ≠ none) →
        (q.homing = none ∨ q.homing = t.homing ∧ ¬ ∀ n, a.display n = none) ∧
        q.places = { t.places with print := q.places.print } ∧
        (t.demanded r = none → q.screen = t.screen ∧ q.places = t.places) ∧
        ((∀ n, a.display n = none) →
          q.screen = (({ t with homing := none } : Panel).demanded r).getD t.screen) := by
  refine ⟨fun hscreen => ⟨h.homing_eq hscreen, fun k a => ?_, ?_⟩,
    fun now a r hreads hall helsewhere => h.tick_homed_elsewhere hreads hall helsewhere⟩
  · have hend : p.perform (.key k) a = Act.woken (.opening p) ((Scene.opening p).waking a) :=
      perform_eq (key_homing hscreen k)
    have hlatch : p.awake = { p with idleTicks := 0, dimmed := false } := by
      rw [awake, ← h.editSession.taken]
    rw [hend]
    exact ⟨hlatch, by simp [Act.woken, Scene.afterCalls, Scene.opening, submitted]⟩
  · intro ops now a r hops t q hreads hall hjob hprobe hmessage hdisplay
    obtain ⟨ht, htscreen⟩ : t.Reachable ∧ t.screen = .homing :=
      hops.run (I := fun q => q.Reachable ∧ q.screen = .homing)
        (fun hop hq => ⟨hq.1.operated _ hop.ne_start, hop.screen_eq hq.1 hq.2⟩) ⟨h, hscreen⟩
    obtain ⟨hup, hclosed, hplaces⟩ :=
      ht.tick_homed htscreen hreads hall hjob hprobe hmessage hdisplay
    refine ⟨htscreen, hup, hclosed, ?_, (ht.operated a (by simp)).placed.lists .prepare⟩
    rw [perform_features, hplaces]
    exact PrepareItem.getElem?_home _

/-- A click and a report that finds no axis homed are waited through, and then the cursor is back on
the entry for homing. -/
theorem homing_returns_clicked :
    let ops := [.down, .click, .down, .down, .down, .click].map fun k =>
      (Operation.key k, Answers.smooth)
    let p := ((ofSettings .standard 240 320).run ((.start, .smooth) :: ops)).1
    let looking := { Answers.smooth with status := fun _ => some .atRest }
    let r := { Status.atRest with homed := ⟨true, true, true⟩ }
    let found := { Answers.smooth with status := fun _ => some r }
    let waiting := [(.key .click, .smooth), (.tick 0, looking)]
    let t := (p.run waiting).1
    let q := (t.perform (.tick 0) found).panel
    p.Reachable ∧ p.screen = .homing ∧ p.homing = some ⟨3⟩ ∧ p.Throughout Awaits waiting ∧
      t.reads (.tick 0) found = some r ∧ t.screen = .homing ∧ q.screen = .prepare ∧
      q.homing = none ∧ q.places.prepare.Fits (q.entryCount .prepare) := by
  intro ops p looking r found waiting t q
  have hops : ∀ x ∈ ops, x.1 ≠ .start := by decide
  have hreached : p.Reachable := reachable_of_start .standard 240 320 .smooth hops
  have hscreen : p.screen = .homing := by decide +kernel
  have hposition : p.homing = some ⟨3⟩ := by decide +kernel
  have hwaits : p.Throughout Awaits waiting := by decide +kernel
  have hreads : t.reads (.tick 0) found = some r := by decide +kernel
  have hjob : r.job = t.lastJob := by decide +kernel
  have hmessage : ¬ t.Announces r := by decide +kernel
  -- The run is not to be computed once more.
  clear_value p
  obtain ⟨-, -, hreturns⟩ := hreached.homing_returns.1 hscreen
  obtain ⟨htscreen, hup, hclosed, -, hfits⟩ :=
    hreturns waiting 0 found r hwaits hreads rfl hjob rfl hmessage fun _ => rfl
  exact ⟨hreached, hscreen, hposition, hwaits, hreads, htscreen, hup, hclosed, hfits⟩

end Panel

end PrinterPanel
