import PrinterPanel.Proofs.Navigation
import PrinterPanel.Proofs.Recovery

/-!
# Which screen a report brings up

A report is followed in several steps, and each of them may bring up another screen. What is up in
the end is decided by a fixed order of urgency: a new message, probing by hand, a change of the
job, the end of probing, the end of homing. Without any of these the user is left alone.
-/

namespace PrinterPanel

/-! ### What is brought up -/

/-- The screen that a change of the job brings up. A pause and its end bring up none. -/
def Job.bringsUp (last job : Job) : Option Screen :=
  if job = last then none
  else
    match job with
    | .printing => if last = .paused then none else some .printProcess
    | .paused => none
    | .standby | .complete | .cancelled => some .mainMenu
    | .error => some .messagePopup

/-- Screens that are brought up by a change of the job. -/
def jobScreens : List Screen := [.printProcess, .mainMenu, .messagePopup]

/-- A change of the job brings up one of its screens. -/
theorem Job.bringsUp_mem {last job : Job} {screen : Screen}
    (h : Job.bringsUp last job = some screen) : screen ∈ jobScreens := by
  unfold bringsUp at h
  split at h
  · contradiction
  · split at h
    · split at h <;> cases h
      decide
    all_goals cases h <;> decide

/-- What a report is compared with: what was heard of the printer before, and what is waited
for. -/
structure Records where
  /-- The last job state. -/
  job : Job
  /-- The last report. -/
  report : Option Status
  /-- The last message. -/
  message : String
  /-- The homing that is waited for. -/
  homing : Option HomingRequest

namespace Panel

/-- What the panel compares a report with. -/
def records (p : Panel) : Records := ⟨p.lastJob, p.lastStatus, p.lastMessage, p.homing⟩

variable {p q t : Panel} {r : Status}

/-- The message of a report is a new one, and not blank. -/
def Announces (p : Panel) (r : Status) : Prop :=
  r.message ≠ p.lastMessage ∧ Text.allBlank r.message.toList = false

instance : Decidable (p.Announces r) := inferInstanceAs (Decidable (_ ∧ _))

/-- The screen that the begin or the end of probing brings up. -/
def probeBringsUp (p : Panel) (r : Status) : Option Screen :=
  if r.probe.isSome then some .manualProbe
  else if p.screen = .manualProbe then some .mainMenu
  else none

/-- The screen that the end of homing brings up. -/
def homingBringsUp (p : Panel) (r : Status) : Option Screen :=
  if p.screen = .homing ∧ p.homing.isSome ∧ r.homed.all then some .prepare else none

/-- The screen that a report brings up by its job and its probing. Probing that has begun is first,
and the end of probing is last. -/
def pressing (p : Panel) (r : Status) : Option Screen :=
  if r.probe.isSome then some .manualProbe
  else
    (Job.bringsUp p.lastJob r.job).or
      (if p.screen = .manualProbe then some .mainMenu else none)

/-- The screen that a report brings up, its message left aside. -/
def urgent (p : Panel) (r : Status) : Option Screen := (p.pressing r).or (p.homingBringsUp r)

/-- The screen that a report brings up. A message is put over any other. -/
def demanded (p : Panel) (r : Status) : Option Screen :=
  if p.Announces r then some .messagePopup else p.urgent r

/-- The screen that a message would give way to. -/
def covered (p : Panel) : Option Screen :=
  if p.abandonEdit.screen = .messagePopup then p.abandonEdit.popupCaller
  else some p.abandonEdit.screen

/-- What a popup gives way to when a screen has come up. -/
def callerBelow (p : Panel) : Screen → Option Screen
  | .prepare => p.popupCaller
  | .messagePopup => p.covered
  | _ => none

/-- What a popup gives way to when a report has been followed. A message covers what the report
has brought up besides. -/
def callerAfter (p : Panel) (r : Status) : Option Screen :=
  match p.urgent r with
  | none => if p.Announces r then p.covered else p.popupCaller
  | some screen =>
    if p.Announces r ∧ screen ≠ .messagePopup then some screen else p.callerBelow screen

/-- Screens that a report brings up. -/
def reportScreens : List Screen := .manualProbe :: .prepare :: jobScreens

/-- Job and probing bring up one of their screens. -/
theorem pressing_mem {screen : Screen} (h : p.pressing r = some screen) :
    screen ∈ .manualProbe :: jobScreens := by
  unfold pressing at h
  split at h
  · cases h
    decide
  · obtain hjob | ⟨-, hprobe⟩ := Option.or_eq_some_iff.mp h
    · exact List.mem_cons_of_mem _ (Job.bringsUp_mem hjob)
    · split at hprobe <;> cases hprobe
      decide

/-- A report brings up one of its screens, its message left aside. -/
theorem urgent_mem {screen : Screen} (h : p.urgent r = some screen) : screen ∈ reportScreens := by
  unfold urgent homingBringsUp at h
  obtain hpressing | ⟨-, hhoming⟩ := Option.or_eq_some_iff.mp h
  · obtain rfl | hjob := List.mem_cons.mp (pressing_mem hpressing)
    · decide
    · exact List.mem_cons_of_mem _ (List.mem_cons_of_mem _ hjob)
  · split at hhoming <;> cases hhoming
    decide

/-- A report brings up one of its screens. -/
theorem demanded_mem {screen : Screen} (h : p.demanded r = some screen) :
    screen ∈ reportScreens := by
  unfold demanded at h
  split at h
  · cases h
    decide
  · exact urgent_mem h

/-- Without a new message, what comes up is brought up by the rest of the report. -/
theorem urgent_of_demanded {up : Option Screen} (h : p.demanded r = up)
    (hother : up ≠ some .messagePopup) : ¬ p.Announces r ∧ p.urgent r = up := by
  unfold demanded at h
  split at h
  · exact absurd h.symm hother
  · next hold => exact ⟨hold, h⟩

/-- No report brings up an editor. -/
theorem isEditor_of_mem_reportScreens {screen : Screen} (h : screen ∈ reportScreens) :
    screen.isEditor = false := by
  revert h
  cases screen <;> decide

/-! ### Putting away an edit -/

/-- An edit that is abandoned gives way to the screen that it was opened on, and nothing else
changes. -/
theorem abandonEdit_eq (p : Panel) :
    p.abandonEdit = { p with
      edit := none
      rateLimited := p.abandonEdit.rateLimited
      screen := p.abandonEdit.screen } := by
  unfold abandonEdit
  split
  · next hedit => rw [← hedit]
  · rfl

/-- An edit that is abandoned does not change the settings. -/
@[simp] theorem abandonEdit_settings (p : Panel) : p.abandonEdit.settings = p.settings := by
  rw [abandonEdit_eq]

/-- An edit that is abandoned moves no cursor. -/
@[simp] theorem abandonEdit_places (p : Panel) : p.abandonEdit.places = p.places := by
  rw [abandonEdit_eq]

/-- A demand moves no cursor. -/
@[simp] theorem forced_places (p : Panel) (d : Demand) : (p.forced d).places = p.places :=
  p.abandonEdit_places

/-- A message moves no cursor. -/
@[simp] theorem withMessage_places (p : Panel) (text : String) :
    (p.withMessage text).places = p.places := by
  unfold withMessage
  split
  · rfl
  · exact p.abandonEdit_places

/-- An edit that is abandoned leaves what reports are compared with. -/
theorem abandonEdit_records (p : Panel) : p.abandonEdit.records = p.records := by
  rw [abandonEdit_eq]
  rfl

/-- A demand leaves what reports are compared with. -/
theorem forced_records (p : Panel) (d : Demand) : (p.forced d).records = p.records :=
  p.abandonEdit_records

/-- A message leaves what reports are compared with. -/
theorem withMessage_records (p : Panel) (text : String) :
    (p.withMessage text).records = p.records := by
  unfold withMessage
  split
  · rfl
  · exact p.abandonEdit_records

/-- Without an edit nothing is put away. -/
theorem abandonEdit_of_none (h : p.edit = none) : p.abandonEdit = p := by
  unfold abandonEdit
  rw [h]

/-- A message covers the screen that is up, and a second one covers what the first does. -/
theorem covered_of_none (h : p.edit = none) :
    p.covered = if p.screen = .messagePopup then p.popupCaller else some p.screen := by
  rw [covered, abandonEdit_of_none h]

/-- What a message covers is told by edit, screen and caller. -/
theorem LeftAlone.covered_eq (h : p.LeftAlone q) : q.covered = p.covered := by
  unfold covered abandonEdit
  rw [h.edit]
  cases p.edit with
  | none => simp only [h.screen, h.caller]
  | some e => simp only [h.caller]

/-- Where the user is left alone, a screen that comes up covers the same. -/
theorem LeftAlone.callerBelow_eq (h : p.LeftAlone q) : q.callerBelow = p.callerBelow := by
  funext screen
  unfold callerBelow
  rw [h.caller, h.covered_eq]

/-- Where the user is left alone, a report leaves the same below a popup. -/
theorem LeftAlone.callerAfter_eq (h : p.LeftAlone q) (hurgent : q.urgent r = p.urgent r)
    (hannounces : q.Announces r ↔ p.Announces r) : q.callerAfter r = p.callerAfter r := by
  unfold callerAfter
  simp only [hurgent, hannounces, h.caller, h.covered_eq, h.callerBelow_eq]

/-- A user who is left alone twice is left alone. -/
theorem LeftAlone.trans (hpq : p.LeftAlone q) (hqt : q.LeftAlone t) : p.LeftAlone t where
  showing := hqt.showing.trans hpq.showing
  edit := hqt.edit.trans hpq.edit
  action := hqt.action.trans hpq.action
  places := hqt.places.trans hpq.places

/-! ### Bringing up a screen -/

/-- From one panel to the next, a screen has been brought up, or the user was left alone. -/
structure Brings (p : Panel) (up : Option Screen) (q : Panel) : Prop where
  settings : q.settings = p.settings
  alone : up = none → p.LeftAlone q
  shown : ∀ screen, up = some screen → q.showing = (screen, p.callerBelow screen)

namespace Brings

variable {up next : Option Screen}

/-- The screen that is up then is the one brought up, or the one before. -/
theorem screen (h : p.Brings up q) : q.screen = up.getD p.screen := by
  cases up with
  | none => exact (h.alone rfl).screen
  | some screen => exact congrArg Prod.fst (h.shown screen rfl)

/-- Where the user is left alone, nothing is brought up. -/
theorem of_alone (hsettings : q.settings = p.settings) (h : p.LeftAlone q) : p.Brings none q where
  settings := hsettings
  alone _ := h
  shown _ hup := nomatch hup

/-- What is shown has been brought up. -/
theorem of_shown {screen : Screen} (hsettings : q.settings = p.settings)
    (h : q.showing = (screen, p.callerBelow screen)) : p.Brings (some screen) q where
  settings := hsettings
  alone hup := nomatch hup
  shown := by
    rintro _ ⟨⟩
    exact h

/-- What is brought up later stays up. It covers nothing unless it is the first. -/
theorem trans (hpq : p.Brings up q) (hqt : q.Brings next t)
    (h : up = none ∨ next = none ∨ next = some .manualProbe) : p.Brings (next.or up) t := by
  have hsettings : t.settings = p.settings := hqt.settings.trans hpq.settings
  cases next with
  | none =>
    have halone : q.LeftAlone t := hqt.alone rfl
    cases up with
    | none => exact of_alone hsettings ((hpq.alone rfl).trans halone)
    | some screen => exact of_shown hsettings (halone.showing.trans (hpq.shown screen rfl))
  | some screen =>
    have hshown : t.showing = (screen, q.callerBelow screen) := hqt.shown screen rfl
    obtain rfl | hnext | hnext := h
    · rw [(hpq.alone rfl).callerBelow_eq] at hshown
      exact of_shown hsettings hshown
    · contradiction
    · cases hnext
      exact of_shown hsettings hshown

end Brings

/-! ### The steps of a report -/

/-- A message that is not blank is brought up. -/
theorem withMessage_brings {text : String} (h : Text.allBlank text.toList = false) :
    p.Brings (some .messagePopup) (p.withMessage text) := by
  unfold withMessage
  rw [if_neg (by simp [h])]
  exact .of_shown p.abandonEdit_settings rfl

/-- The message for a printer in error is not blank. -/
theorem allBlank_errorText (text : String) :
    Text.allBlank (if Text.allBlank text.toList then Act.unknownError else text).toList =
      false := by
  split
  · decide
  · next hblank => simpa using hblank

/-- Following the job brings up what the job does. -/
theorem followingJob_brings (p : Panel) (r : Status) :
    p.Brings (Job.bringsUp p.lastJob r.job) (p.followingJob r) := by
  have hnoted (job : Job) : p.Brings none { p with lastJob := job } :=
    .of_alone rfl ⟨rfl, rfl, rfl, rfl⟩
  have hwarned (job : Job) (text : String) :
      p.Brings (some .messagePopup) (({ p with lastJob := job } : Panel).withMessage
        (if Text.allBlank text.toList then Act.unknownError else text)) := by
    exact (hnoted job).trans (withMessage_brings (allBlank_errorText text)) (.inl rfl)
  unfold followingJob Job.bringsUp
  by_cases hsame : r.job = p.lastJob
  · simp only [hsame, if_true]
    exact hnoted _
  · simp only [hsame, if_false]
    cases r.job with
    | printing =>
      dsimp only
      split
      · exact hnoted _
      · exact .of_shown (abandonEdit_settings _) rfl
    | paused => exact hnoted _
    | standby | complete | cancelled => exact .of_shown (abandonEdit_settings _) rfl
    | error => exact hwarned _ _

/-- While the bed is probed there is no edit to put away and nothing to give way to. -/
theorem followingProbe_brings (hedits : p.EditSession) (hcaller : p.CallerFits) (r : Status) :
    p.Brings (p.probeBringsUp r) (p.followingProbe r) := by
  unfold followingProbe probeBringsUp
  by_cases hscreen : p.screen = .manualProbe
  · have hedit : p.edit = none :=
      hedits.edit_eq_none (free_of_isEditor_eq_false (by rw [hscreen]; rfl))
    cases hprobe : r.probe.isSome with
    | true =>
      simp only [hscreen, beq_self_eq_true, if_true]
      exact .of_shown rfl (showing_eq_iff.mpr ⟨hscreen, hcaller.probing hscreen⟩)
    | false =>
      simp only [hscreen, beq_self_eq_true, Bool.false_eq_true, if_false, if_true]
      refine .of_shown (abandonEdit_settings _) (showing_eq_iff.mpr ⟨?_, rfl⟩)
      simp only [forced, abandonEdit, hedit]
      rfl
  · cases hprobe : r.probe.isSome with
    | true =>
      simp only [hscreen, beq_eq_false_iff_ne.mpr, ne_eq, not_false_eq_true, Bool.true_eq_false,
        if_false, if_true]
      exact .of_shown (abandonEdit_settings _) rfl
    | false =>
      simp only [hscreen, beq_eq_false_iff_ne.mpr, ne_eq, not_false_eq_true, if_true, if_false,
        Bool.false_eq_true]
      exact .of_alone rfl (.refl p)

/-- Keeping up with the print brings up nothing. -/
theorem followingPrint_brings (p : Panel) (r : Status) : p.Brings none (p.followingPrint r) := by
  refine .of_alone ?_ (p.followingPrint_leftAlone r)
  unfold followingPrint
  split <;> rfl

/-- After homing that was asked for, the prepare menu is on the entry that asked for it. -/
theorem followingHoming_of_homed {request : HomingRequest} (hhoming : p.homing = some request)
    (hall : r.homed.all = true) (hscreen : p.screen = .homing) :
    p.followingHoming r = { p with
      homing := none
      places := p.places.select .prepare request.position
      screen := .prepare } := by
  simp only [followingHoming, hhoming, hall, hscreen, if_true]

/-- Waiting for the axes to be homed brings up what the end of that does. -/
theorem followingHoming_brings (p : Panel) (r : Status) :
    p.Brings (p.homingBringsUp r) (p.followingHoming r) := by
  have hdone : p.Brings none { p with homing := none } := .of_alone rfl ⟨rfl, rfl, rfl, rfl⟩
  unfold followingHoming homingBringsUp
  cases hhoming : p.homing with
  | none => simpa using .of_alone rfl (.refl p)
  | some request =>
    cases hall : r.homed.all with
    | false => simpa using .of_alone rfl (.refl p)
    | true =>
      by_cases hscreen : p.screen = .homing
      · simp only [hscreen, Option.isSome_some, and_self, if_true]
        exact .of_shown rfl rfl
      · simp only [hscreen, false_and, if_true, if_false]
        exact hdone

/-- A message that the report announces is brought up. -/
theorem followingMessage_brings (p : Panel) (r : Status) :
    p.Brings (if p.Announces r then some .messagePopup else none) (p.followingMessage r) := by
  have hnoted : p.Brings none { p with lastMessage := r.message } :=
    .of_alone rfl ⟨rfl, rfl, rfl, rfl⟩
  unfold followingMessage Announces
  by_cases hsame : r.message = p.lastMessage
  · simpa [hsame] using .of_alone rfl (.refl p)
  · by_cases hblank : Text.allBlank r.message.toList = true
    · simpa [hsame, withMessage, hblank] using hnoted
    · have hwarned : ({ p with lastMessage := r.message } : Panel).Brings (some .messagePopup)
          (({ p with lastMessage := r.message } : Panel).withMessage r.message) :=
        withMessage_brings (by simpa using hblank)
      simpa [hsame, hblank] using hnoted.trans hwarned (.inl rfl)

/-! ### A whole report -/

/-- Following the job notes the job. -/
theorem followingJob_records (p : Panel) (r : Status) :
    (p.followingJob r).records = { p.records with job := r.job } := by
  unfold followingJob
  dsimp only
  split
  · rfl
  · split
    · split
      · rfl
      · exact forced_records _ _
    · rfl
    · exact forced_records _ _
    · exact forced_records _ _
    · exact forced_records _ _
    · exact withMessage_records _ _

/-- Following the probing notes nothing. -/
theorem followingProbe_records (p : Panel) (r : Status) :
    (p.followingProbe r).records = p.records := by
  unfold followingProbe
  split
  · rfl
  · exact forced_records _ _

/-- Keeping up with the print notes nothing. -/
theorem followingPrint_records (p : Panel) (r : Status) :
    (p.followingPrint r).records = p.records := by
  unfold followingPrint
  split <;> rfl

/-- Once all axes are homed they are no longer waited for. -/
theorem followingHoming_records (p : Panel) (r : Status) :
    (p.followingHoming r).records =
      { p.records with homing := if r.homed.all then none else p.homing } := by
  unfold followingHoming records
  cases hhoming : p.homing with
  | none => simp [hhoming]
  | some request =>
    cases r.homed.all with
    | false => simp [hhoming]
    | true =>
      simp only [if_true]
      split <;> rfl

/-- Following the message notes it. -/
theorem followingMessage_records (p : Panel) (r : Status) :
    (p.followingMessage r).records = { p.records with message := r.message } := by
  unfold followingMessage
  split
  · next hsame => rw [hsame]; rfl
  · exact withMessage_records _ _

/-- The panel after a look at job, probing and progress. -/
def pressed (p : Panel) (r : Status) : Panel :=
  ((p.followingJob r).followingProbe r).followingPrint r

/-- Job, probing and progress note the job. -/
theorem pressed_records (p : Panel) (r : Status) :
    (p.pressed r).records = { p.records with job := r.job } := by
  rw [pressed, followingPrint_records, followingProbe_records, followingJob_records]

/-- Job, probing and progress leave the request for homing. -/
theorem pressed_homing (p : Panel) (r : Status) : (p.pressed r).homing = p.homing :=
  congrArg Records.homing (p.pressed_records r)

/-- The panel before a look at the message. -/
def beforeMessage (p : Panel) (r : Status) : Panel := (p.pressed r).followingHoming r

/-- After a report the panel compares with that report. -/
theorem following_records (p : Panel) (r : Status) :
    (p.following r).records =
      ⟨r.job, p.lastStatus, r.message, if r.homed.all then none else p.homing⟩ := by
  have hfollowing : p.following r = (p.beforeMessage r).followingMessage r := rfl
  rw [hfollowing, followingMessage_records, beforeMessage, followingHoming_records,
    pressed_records, pressed_homing]
  rfl

/-- Probing comes before the job, and its end comes last. -/
theorem pressed_brings (hedits : p.EditSession) (hcaller : p.CallerFits) (r : Status) :
    p.Brings (p.pressing r) (p.pressed r) := by
  have hjob : p.Brings (Job.bringsUp p.lastJob r.job) (p.followingJob r) := p.followingJob_brings r
  have hedits' : (p.followingJob r).EditSession := invariant_editSession.followingJob r hedits
  have hcaller' : (p.followingJob r).CallerFits :=
    persists_callerFits.follows (r := r) List.mem_cons_self hcaller
  have hprobe : (p.followingJob r).Brings ((p.followingJob r).probeBringsUp r) (p.pressed r) :=
    (followingProbe_brings hedits' hcaller' r).trans (followingPrint_brings _ r) (.inr (.inl rfl))
  unfold pressing
  -- Probing is looked at after the job. Whether it ends is asked of the screen that is up by then.
  cases hprobing : r.probe.isSome with
  | true =>
    have hup : (p.followingJob r).probeBringsUp r = some .manualProbe := by
      simp [probeBringsUp, hprobing]
    rw [hup] at hprobe
    exact hjob.trans hprobe (.inr (.inr rfl))
  | false =>
    have hscreen : (p.followingJob r).screen = (Job.bringsUp p.lastJob r.job).getD p.screen :=
      hjob.screen
    rw [if_neg (by simp)]
    cases hup : Job.bringsUp p.lastJob r.job with
    | some screen =>
      have hother : screen ≠ .manualProbe := by
        rintro rfl
        exact absurd (Job.bringsUp_mem hup) (by decide)
      have hnone : (p.followingJob r).probeBringsUp r = none := by
        simp [probeBringsUp, hprobing, hscreen, hup, hother]
      rw [hup] at hjob
      rw [hnone] at hprobe
      exact hjob.trans hprobe (.inr (.inl rfl))
    | none =>
      have hsame : (p.followingJob r).probeBringsUp r =
          if p.screen = .manualProbe then some .mainMenu else none := by
        simp [probeBringsUp, hprobing, hscreen, hup]
      rw [hup] at hjob
      rw [hsame] at hprobe
      have hboth := hjob.trans hprobe (.inl rfl)
      rwa [Option.or_none] at hboth

/-- Homing is looked at when nothing else has come up. -/
theorem homingBringsUp_pressed (hedits : p.EditSession) (hcaller : p.CallerFits) (r : Status) :
    (p.pressed r).homingBringsUp r =
      if p.pressing r = none then p.homingBringsUp r else none := by
  have hscreen : (p.pressed r).screen = (p.pressing r).getD p.screen :=
    (pressed_brings hedits hcaller r).screen
  unfold homingBringsUp
  rw [hscreen, pressed_homing]
  cases hup : p.pressing r with
  | none => simp
  | some screen =>
    have hother : screen ≠ .homing := by
      rintro rfl
      exact absurd (pressing_mem hup) (by decide)
    simp [hother]

/-- Homing brings up a screen only where nothing else does. -/
theorem urgent_brings (hedits : p.EditSession) (hcaller : p.CallerFits) (r : Status) :
    p.Brings (p.urgent r) (p.beforeMessage r) := by
  have hpressed : p.Brings (p.pressing r) (p.pressed r) := pressed_brings hedits hcaller r
  have hhoming := (p.pressed r).followingHoming_brings r
  rw [homingBringsUp_pressed hedits hcaller] at hhoming
  unfold urgent
  cases hup : p.pressing r with
  | none =>
    simp only [hup, if_true] at hhoming hpressed
    have hboth := hpressed.trans hhoming (.inl rfl)
    rwa [Option.or_none] at hboth
  | some screen =>
    simp only [hup, reduceCtorEq, if_false] at hhoming hpressed
    exact hpressed.trans hhoming (.inr (.inl rfl))

/-- What comes before the message does not note it. -/
theorem beforeMessage_lastMessage (p : Panel) (r : Status) :
    (p.beforeMessage r).lastMessage = p.lastMessage := by
  have hrecords := (p.pressed r).followingHoming_records r
  rw [pressed_records] at hrecords
  exact congrArg Records.message hrecords

/-- What comes before the message does not decide whether it is a new one. -/
theorem beforeMessage_announces (p : Panel) (r : Status) :
    (p.beforeMessage r).Announces r ↔ p.Announces r := by
  unfold Announces
  rw [beforeMessage_lastMessage]

/-- A message that the report announces is brought up over all else. -/
theorem message_brings (p : Panel) (r : Status) :
    (p.beforeMessage r).Brings (if p.Announces r then some .messagePopup else none)
      (p.following r) := by
  have hmessage := (p.beforeMessage r).followingMessage_brings r
  simp only [beforeMessage_announces] at hmessage
  exact hmessage

/-- What a message covers is decided by what the report has brought up besides. -/
theorem beforeMessage_covered (hedits : p.EditSession) (hcaller : p.CallerFits) (r : Status) :
    (p.beforeMessage r).covered =
      match p.urgent r with
      | none => p.covered
      | some screen => if screen = .messagePopup then p.covered else some screen := by
  have hbrings : p.Brings (p.urgent r) (p.beforeMessage r) := urgent_brings hedits hcaller r
  cases hup : p.urgent r with
  | none => exact (hbrings.alone hup).covered_eq
  | some screen =>
    obtain ⟨hscreen, hbelow⟩ := showing_eq_iff.mp (hbrings.shown screen hup)
    have hsteps : (changesFor r).take 4 ⊆ changesFor r := List.take_subset _ _
    have hedits' : (p.beforeMessage r).EditSession :=
      invariant_editSession.persists.after hsteps hedits
    have heditor : (p.beforeMessage r).screen.isEditor = false := by
      rw [hscreen]
      exact isEditor_of_mem_reportScreens (urgent_mem hup)
    rw [covered_of_none (hedits'.edit_eq_none (free_of_isEditor_eq_false heditor)), hscreen, hbelow]
    dsimp only
    split
    · next hmessage => rw [hmessage]; rfl
    · rfl

/-- A report decides which screen is up and what a popup gives way to. -/
theorem following_showing (hedits : p.EditSession) (hcaller : p.CallerFits) (r : Status) :
    (p.following r).showing = ((p.demanded r).getD p.screen, p.callerAfter r) := by
  have hbrings : p.Brings (p.urgent r) (p.beforeMessage r) := urgent_brings hedits hcaller r
  have hmessage := p.message_brings r
  unfold demanded callerAfter
  by_cases hnew : p.Announces r
  · have hcovers : (p.following r).showing = (.messagePopup, (p.beforeMessage r).covered) := by
      simp only [hnew, if_true] at hmessage
      exact hmessage.shown _ rfl
    rw [hcovers, beforeMessage_covered hedits hcaller]
    cases hup : p.urgent r with
    | none => simp [hnew]
    | some screen =>
      by_cases hscreen : screen = .messagePopup
      · simp [hnew, hscreen, callerBelow]
      · simp [hnew, hscreen]
  · have halone : (p.beforeMessage r).LeftAlone (p.following r) := by
      simp only [hnew, if_false] at hmessage
      exact hmessage.alone rfl
    rw [halone.showing]
    cases hup : p.urgent r with
    | none =>
      have hsame : (p.beforeMessage r).showing = p.showing := (hbrings.alone hup).showing
      simpa [hnew, showing] using hsame
    | some screen => simpa [hnew] using hbrings.shown screen hup

/-- A report that brings up nothing leaves the user alone. -/
theorem following_leftAlone (hedits : p.EditSession) (hcaller : p.CallerFits)
    (h : p.demanded r = none) : p.LeftAlone (p.following r) := by
  have hmessage := p.message_brings r
  obtain ⟨hold, hup⟩ := urgent_of_demanded h (by simp)
  simp only [hold, if_false] at hmessage
  exact ((urgent_brings hedits hcaller r).alone hup).trans (hmessage.alone rfl)

/-- A report does not change the settings. -/
theorem following_settings (hedits : p.EditSession) (hcaller : p.CallerFits) (r : Status) :
    (p.following r).settings = p.settings :=
  (p.message_brings r).settings.trans (urgent_brings hedits hcaller r).settings

/-- The prepare menu comes up on the entry that asked for homing, with nothing else changed. -/
theorem following_prepare (hedits : p.EditSession) (hcaller : p.CallerFits)
    (h : p.demanded r = some .prepare) :
    ∃ request, p.homing = some request ∧
      (p.following r).places = p.places.select .prepare request.position := by
  have hmessage := p.message_brings r
  obtain ⟨hold, hup⟩ := urgent_of_demanded h (by simp)
  obtain ⟨hpressing, hscreen, hasked, hall⟩ :
      p.pressing r = none ∧ p.screen = .homing ∧ p.homing.isSome = true ∧ r.homed.all = true := by
    obtain hpressing | ⟨hpressing, hhoming⟩ := Option.or_eq_some_iff.mp hup
    · exact absurd (pressing_mem hpressing) (by decide)
    · unfold homingBringsUp at hhoming
      split at hhoming
      · next hhomed => exact ⟨hpressing, hhomed⟩
      · contradiction
  obtain ⟨request, hrequest⟩ := Option.isSome_iff_exists.mp hasked
  have hpressed : p.LeftAlone (p.pressed r) := (pressed_brings hedits hcaller r).alone hpressing
  have hhoming : (p.pressed r).homing = some request := (p.pressed_homing r).trans hrequest
  have hplaces : (p.beforeMessage r).places = p.places.select .prepare request.position := by
    rw [beforeMessage, followingHoming_of_homed hhoming hall
      (hpressed.screen.trans hscreen), ← hpressed.places]
  simp only [hold, if_false] at hmessage
  exact ⟨request, hrequest, (hmessage.alone rfl).places.trans hplaces⟩

end Panel

/-! ### Ticks -/

/-- Looking at the clock leaves the knob alone unless that makes a key. -/
theorem Knob.poll_eq {k : Knob} {now : Nat} (h : (k.poll now).1 = none) :
    k.poll now = (none, k) := by
  unfold Knob.poll at h ⊢
  split at h
  · rfl
  · split at h
    · contradiction
    · next hlong => rw [if_neg hlong]

namespace Act

variable {a : Answers} {s : Scene} {r : Status}

/-- A knob that gives no key leaves the scene as it is. -/
theorem keyOfKnob_poll_eq {now : Nat} (h : (s.panel.knob.poll now).1 = none) :
    keyOfKnob (·.poll now) a s = .ok () s := by
  rw [keyOfKnob_eq, Knob.poll_eq h]
  rfl

/-- Without display calls that fail, a report is followed to its end. -/
theorem hear_follows (h : ∀ n, a.display n = none) (hreport : a.status s.looks = some r) :
    ∃ t, hear a s = .ok () t ∧ t.panel = ((s.heard r).panel.following r).idled := by
  obtain ⟨t, ht, htdrawn⟩ | ⟨f, -, -, -, ⟨n, hfailed⟩, -⟩ :=
    reconcile_cases (a := a) (s := s.heard r) r s.panel.lastStatus
  · have hreconciled : recovering (reconcile r s.panel.lastStatus) a (s.heard r) = .ok () t := by
      rw [recovering_eq, ht]
    obtain ⟨u, hu, hudrawn⟩ := countIdleTick_eq (a := a) (s := t)
    refine ⟨u, ?_, ?_⟩
    · rw [hear_eq_of_some hreport, bind_eq hreconciled, hu]
    · rw [hudrawn.panel_eq, htdrawn.panel_eq]
  · rw [h n] at hfailed
    contradiction

end Act

namespace Panel

variable {p : Panel} {a : Answers} {r : Status} {now : Nat}

/-- A tick that nothing cuts short follows its report to the end. -/
theorem tick_follows (h : ∀ n, a.display n = none) {s : Scene}
    (hpoll : Act.keyOfKnob (·.poll now) a (.opening p) = .ok () s)
    (hreport : a.status s.looks = some r) :
    (p.perform (.tick now) a).panel = ((s.heard r).panel.following r).idled := by
  obtain ⟨t, ht, htpanel⟩ := Act.hear_follows h hreport
  have htick : Act.tick now a (.opening p) = .ok () t := by
    rw [Act.tick_eq, Act.bind_eq hpoll, ht]
  have hperform : p.perform (.tick now) a = t := perform_eq htick
  rw [hperform, htpanel]

/-- After a tick that reads a report, with a display that does not fail and without a long press,
the screen is the one that the report brings up in its order of urgency, if it brings up any: that
of a new message, of probing, of a change of the job, of the end of probing, of the end of homing.
If none comes up, the screen, the edit, what a popup gives way to and all lists are as before. If
one comes up, no value is edited, and a popup gives way to what it covers; after homing the prepare
menu is on the entry that asked for it. The settings with the presets never change. -/
theorem Reachable.tick_priority (h : p.Reachable) (hdisplay : ∀ n, a.display n = none)
    (hpoll : p.keyOf (.tick now) = none) (hreport : a.status 0 = some r) :
    let q := (p.perform (.tick now) a).panel
    q.screen = (p.demanded r).getD p.screen ∧ q.popupCaller = p.callerAfter r ∧
      q.settings = p.settings ∧
      (p.demanded r = none →
        q.edit = p.edit ∧ q.popupCaller = p.popupCaller ∧ q.places = p.places) ∧
      (p.demanded r ≠ none → q.edit = none ∧ q.rateLimited = true) ∧
      (p.demanded r = some .prepare → ∃ request, p.homing = some request ∧
        q.places = p.places.select .prepare request.position) := by
  intro q
  let heard : Panel := { p with lastStatus := some r }
  have hq : q = (heard.following r).idled :=
    tick_follows (s := .opening p) hdisplay (Act.keyOfKnob_poll_eq hpoll) hreport
  have hedits : heard.EditSession := invariant_editSession.persists.hears _ h.editSession
  have hcaller : heard.CallerFits := persists_callerFits.hears _ h.callerFits
  rw [idled_eq] at hq
  have hsame : heard.callerAfter r = p.callerAfter r :=
    LeftAlone.callerAfter_eq ⟨rfl, rfl, rfl, rfl⟩ rfl Iff.rfl
  have hshowing : q.showing = ((p.demanded r).getD p.screen, p.callerAfter r) := by
    rw [hq, ← hsame]
    exact following_showing hedits hcaller r
  obtain ⟨hscreen, hbelow⟩ := showing_eq_iff.mp hshowing
  have hqedits : q.EditSession :=
    invariant_editSession.perform (fun hop => nomatch hop) h.editSession
  refine ⟨hscreen, hbelow, ?_, fun hnone => ?_, fun hsome => ?_, fun hprepare => ?_⟩
  · rw [hq]
    exact following_settings hedits hcaller r
  · have halone : heard.LeftAlone (heard.following r) := following_leftAlone hedits hcaller hnone
    rw [hq]
    exact ⟨halone.edit, halone.caller, halone.places⟩
  · obtain ⟨screen, hup⟩ := Option.ne_none_iff_exists'.mp hsome
    have heditor : q.screen.isEditor = false := by
      rw [hscreen, hup]
      exact isEditor_of_mem_reportScreens (demanded_mem hup)
    have hedit : q.edit = none := hqedits.edit_eq_none (free_of_isEditor_eq_false heditor)
    exact ⟨hedit, (hqedits.closed hedit).2⟩
  · rw [hq]
    exact following_prepare hedits hcaller hprepare

/-- A print that starts while the Z offset is edited brings up the print screen. -/
theorem tick_priority_editing :
    let keys := [.down, .click, .down, .down, .down, .down, .click].map fun k =>
      (Operation.key k, Answers.smooth)
    let p := (((Panel.ofSettings .standard 240 320).perform .start .smooth).panel.run keys).1
    let r := { Status.atRest with job := .printing }
    let a := { Answers.smooth with status := fun _ => some r }
    let q := (p.perform (.tick 0) a).panel
    p.Reachable ∧ (∀ n, a.display n = none) ∧ p.keyOf (.tick 0) = none ∧ a.status 0 = some r ∧
      p.screen = .zOffset ∧ q.screen = .printProcess ∧ q.edit = none := by
  intro keys p r a q
  have hp : p.Reachable := (Reachable.started .standard 240 320 .smooth).run (by decide)
  have hpoll : p.keyOf (.tick 0) = none := by decide +kernel
  have hscreen : p.screen = .zOffset := by decide +kernel
  have hdemanded : p.demanded r = some .printProcess := by decide +kernel
  obtain ⟨hup, -, -, -, hclosed, -⟩ := hp.tick_priority (fun _ => rfl) hpoll (a := a) (r := r) rfl
  have hq : q.screen = .printProcess := by rw [hup, hdemanded]; rfl
  exact ⟨hp, fun _ => rfl, hpoll, rfl, hscreen, hq, (hclosed (by simp [hdemanded])).1⟩

end Panel

end PrinterPanel
