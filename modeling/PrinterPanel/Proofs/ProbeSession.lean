import PrinterPanel.Proofs.Homing
import PrinterPanel.Proofs.PopupCallers
import PrinterPanel.Proofs.Probing
import PrinterPanel.Proofs.Refusals
import PrinterPanel.Proofs.Settled

/-!
# Sessions of probing by hand

A session begins with a tick that finds the bed being probed while another screen is up, and it
lasts as long as the screen for probing stays up. It begins with the first step size, and each click
goes on to the next. A turn of the knob is sent to the printer exactly if it leaves a whole
millimetre between the nozzle and the end of its travel; otherwise it counts as out of range.
-/

namespace PrinterPanel

/-! ### Rounding towards the ends of the travel -/

namespace Act

/-- A whole number of millimetres is less than a height rounded down if a millimetre more is at most
the height. -/
theorem lt_floorMm_iff {mm um : Int} : mm < floorMm um ↔ 1000 * (mm + 1) ≤ um := by
  unfold floorMm
  omega

/-- A height rounded up is less than a whole number of millimetres if it is at most a millimetre
less. -/
theorem ceilMm_lt_iff {mm um : Int} : ceilMm um < mm ↔ um ≤ 1000 * (mm - 1) := by
  unfold ceilMm
  omega

end Act

namespace Panel

variable {p : Panel} {um : Int} {symbol : Symbol}

/-- Clockwise is down, to a millimetre above the lower end. -/
theorem probeCommands_of_isCw (h : symbol.isCw = true) :
    p.probeCommands um symbol =
      if 1000 * (p.settings.limits.z.min + 1) ≤ um - p.probeStep then
        [.probeAdjust (-p.probeStep)]
      else [] := by
  cases symbol with
  | cw | fastCw => simp only [probeCommands, Act.lt_floorMm_iff]
  | ccw | fastCcw | enter | longEnter | idle => contradiction

/-- Counter-clockwise is up, to a millimetre below the upper end. -/
theorem probeCommands_of_isCcw (h : symbol.isCcw = true) :
    p.probeCommands um symbol =
      if um + p.probeStep ≤ 1000 * (p.settings.limits.z.max - 1) then [.probeAdjust p.probeStep]
      else [] := by
  cases symbol with
  | ccw | fastCcw => simp only [probeCommands, Act.ceilMm_lt_iff]
  | cw | fastCw | enter | longEnter | idle => contradiction

end Panel

/-! ### What a key makes of the probing -/

/-- What a move makes of the probing. One that the printer declines leaves it as it is. -/
def ProbeSession.moved (session : ProbeSession) (allowed : Bool) (refusal : Option Refusal) :
    ProbeSession :=
  if allowed && refusal.isSome then session else { session with outOfRange := !allowed }

/-- A move leaves the step size. -/
@[simp] theorem ProbeSession.moved_step (session : ProbeSession) (allowed : Bool)
    (refusal : Option Refusal) : (session.moved allowed refusal).step = session.step := by
  unfold moved
  split <;> rfl

/-- What a symbol makes of the probing, unless it ends it. -/
def Panel.probeAfter (p : Panel) (um : Int) (refusal : Option Refusal) (symbol : Symbol) :
    ProbeSession :=
  if symbol.isTurn then p.probe.moved (p.probeCommands um symbol ≠ []) refusal
  else if symbol = .enter then ⟨(p.probe.step + 1) % Act.probeSteps.length, false⟩
  else p.probe

/-- From one scene to a later one, these commands were submitted, and this became of the
probing. -/
def Scene.Probed (s : Scene) (commands : List Command) (session : ProbeSession) (t : Scene) :
    Prop :=
  s.Submits commands t ∧ t.panel.probe = session

/-- What was submitted first is all if nothing is submitted after that. -/
theorem Scene.Probed.trans {s t u : Scene} {commands : List Command}
    {session session' : ProbeSession} (hst : s.Probed commands session t)
    (htu : t.Probed [] session' u) : s.Probed commands session' u := by
  have hsame : submitted u.events = submitted t.events ++ [] := htu.1
  refine ⟨?_, htu.2⟩
  rw [Submits, hsame, List.append_nil, hst.1]

namespace Panel

variable {p q t : Panel}

/-- A message leaves the probing as it is. -/
@[simp] theorem withMessage_probe (p : Panel) (text : String) :
    (p.withMessage text).probe = p.probe := by
  unfold withMessage
  split
  · rfl
  · rw [abandonEdit_eq]

/-- Where the screen for probing is up, it was up before, with the same session. -/
def ProbesStill (p q : Panel) : Prop :=
  q.screen = .manualProbe → p.screen = .manualProbe ∧ q.probe = p.probe

/-- A session that goes on twice goes on. -/
theorem ProbesStill.trans (hpq : p.ProbesStill q) (hqt : q.ProbesStill t) : p.ProbesStill t := by
  intro ht
  obtain ⟨hq, hsame⟩ := hqt ht
  obtain ⟨hp, hfirst⟩ := hpq hq
  exact ⟨hp, hsame.trans hfirst⟩

/-- A session goes on where a message leaves it up. -/
theorem probesStill_withMessage (p : Panel) (text : String) :
    p.ProbesStill (p.withMessage text) := by
  intro hup
  obtain hsame | hmessage := p.withMessage_cases text
  · rw [hsame] at hup
    exact ⟨hup, p.withMessage_probe text⟩
  · rw [hup] at hmessage
    contradiction

/-- A message does not bring the screen for probing up. -/
theorem withMessage_ne_manualProbe (text : String) (h : p.screen ≠ .manualProbe) :
    (p.withMessage text).screen ≠ .manualProbe :=
  fun hup => h (p.probesStill_withMessage text hup).1

end Panel

namespace Act

variable {a : Answers} {s : Scene} {commands : List Command} {session : ProbeSession}

/-- An act that submits some commands and makes something of the probing, however it ends. -/
def Probes (act : Act Unit) (commands : List Command) (session : ProbeSession) (a : Answers)
    (s : Scene) : Prop :=
  act.Ensures (fun _ t => s.Probed commands session t) (fun _ t => s.Probed commands session t) a s

/-- To look at the panel first makes no difference. -/
@[simp] theorem probes_panel_bind (next : Panel → Act Unit) :
    (panel >>= next).Probes commands session a s ↔ (next s.panel).Probes commands session a s :=
  ensures_panel_bind next

/-- To ask for a report first makes no difference but for the number of looks. -/
@[simp] theorem probes_report_bind (next : Status → Act Unit) :
    (report >>= next).Probes commands session a s ↔
      (next (s.panel.reportAt a s.looks)).Probes commands session a
        { s with looks := s.looks + 1 } :=
  ensures_report_bind next

/-- An act that makes another panel submits nothing. -/
theorem Becomes.probes {act : Act Unit} {q : Panel} (h : act.Becomes q a s) :
    act.Probes [] q.probe a s := by
  apply Ensures.mono h
  · exact fun _ _ ht => ⟨ht.submits, congrArg Panel.probe ht.panel_eq⟩
  · exact fun _ _ ht => ⟨ht.2.submits, congrArg Panel.probe ht.2.panel_eq⟩

/-- The message for a command that is declined leaves the probing alone. -/
theorem Probes.recovering {act : Act Unit} (h : act.Probes commands session a s) :
    (recovering act).Probes commands session a s := by
  apply Ensures.recovering h
  · exact fun _ _ ht => ht
  · intro r t ht
    have hmessage : (showMessage ("Error: " ++ r.message)).Probes [] session a t := by
      have hshown : (showMessage ("Error: " ++ r.message)).Probes [] _ a t :=
        ((becomes_showMessage _).mpr rfl).probes
      rwa [Panel.withMessage_probe, ht.2] at hshown
    exact Ensures.mono hmessage (fun _ _ hu => ht.trans hu) fun _ _ hu => ht.trans hu

/-- A move is submitted exactly if it is allowed, and the page says whether it was. -/
theorem probes_moveProbe (allowed : Bool) (um : Int) :
    (moveProbe allowed um).Probes (if allowed then [.probeAdjust um] else [])
      (s.panel.probe.moved allowed (a.command s.commands)) a s := by
  have hshow (t : Scene) : (do
      change fun p => { p with probe := { p.probe with outOfRange := !allowed } }
      draw ((← panel).probePicture false) : Act Unit).Probes []
        { t.panel.probe with outOfRange := !allowed } a t := by
    apply Becomes.probes (q := { t.panel with
      probe := { t.panel.probe with outOfRange := !allowed } })
    simp
  unfold moveProbe ProbeSession.moved
  cases allowed with
  | false => exact hshow s
  | true =>
    simp only [if_true, Probes, ensures_bind, ensures_send]
    constructor
    · intro haccepted
      apply Ensures.mono (hshow (s.afterCommand (.probeAdjust um) true))
      all_goals
        intro _ t ht
        exact ⟨Scene.submits_afterCommand_iff.mp ht.1, by simpa [haccepted] using ht.2⟩
    · intro r hdeclined
      exact ⟨by simp [Scene.Submits, Scene.afterCommand], by simp [hdeclined]⟩

/-- A key that does not end the probing, at the height that is reported. -/
theorem probes_manualProbe {symbol : Symbol} (hsymbol : symbol ≠ .longEnter) :
    let um := (s.panel.reportAt a s.looks).probe.getD 0
    (manualProbe symbol).Probes (s.panel.probeCommands um symbol)
      (s.panel.probeAfter um (a.command s.commands) symbol) a s := by
  intro um
  have hmove (allowed : Prop) [Decidable allowed] (um : Int) :
      (moveProbe allowed um).Probes (if allowed then [.probeAdjust um] else [])
        (s.panel.probe.moved ((if allowed then [Command.probeAdjust um] else []) ≠ [])
          (a.command s.commands)) a { s with looks := s.looks + 1 } := by
    have hmoved := probes_moveProbe (a := a) (s := { s with looks := s.looks + 1 }) allowed um
    by_cases hallowed : allowed <;> simpa [hallowed] using hmoved
  simp only [manualProbe, probes_report_bind, probes_panel_bind]
  cases symbol with
  | cw | fastCw =>
    exact hmove (s.panel.settings.limits.z.min < floorMm (um - s.panel.probeStep)) _
  | ccw | fastCcw =>
    exact hmove (ceilMm (um + s.panel.probeStep) < s.panel.settings.limits.z.max) _
  | enter =>
    apply Becomes.probes (q := { s.panel with
      probe := ⟨(s.panel.probe.step + 1) % probeSteps.length, false⟩ })
    simp
  | idle => exact ⟨(Scene.Redrawn.refl s).submits, rfl⟩
  | longEnter => contradiction

/-- A long press ends the probing, or a message says why it does not. -/
theorem leaves_longEnter :
    (recovering (manualProbe .longEnter)).Leaves (·.screen ≠ .manualProbe) a s := by
  cases hanswer : a.command s.commands with
  | none =>
    have hends : (manualProbe .longEnter).Leaves (·.screen ≠ .manualProbe) a s := by
      simp [manualProbe, hanswer]
    exact hends.recovering Panel.withMessage_ne_manualProbe
  | some r =>
    have hmessage (r : Refusal) (t : Scene) :
        (showMessage ("Error: " ++ r.message)).Leaves (·.screen ≠ .manualProbe) a t := by
      rw [leaves_showMessage, withMessage_screen (not_allBlank_error _)]
      decide
    have hcut : (manualProbe .longEnter).Ensures (fun _ t => t.panel.screen ≠ .manualProbe)
        (fun f _ => f = .refused r) a s := by
      simp [manualProbe, hanswer]
    apply hcut.recovering
    · intro f t ht
      contradiction
    · exact fun r t _ => hmessage r t

end Act

namespace Panel

variable {p q : Panel} {op : Operation} {a : Answers} {k : Key} {r : Status} {clicks : Nat}

/-! ### Keys -/

/-- The height by which a key goes while the bed is probed. -/
def heightAt (p : Panel) (a : Answers) : Int := (p.reportAt a 0).probe.getD 0

/-- While the bed is probed, a key that does not end that submits what its symbol does. -/
theorem probed_perform (hscreen : p.screen = .manualProbe) (hkey : p.keyOf op = some k)
    (hk : k ≠ .longClick) :
    submitted (p.perform op a).events = p.probeCommands (p.heightAt a) (p.symbolOf k) ∧
      (p.perform op a).panel.probe =
        p.probeAfter (p.heightAt a) (a.command 0) (p.symbolOf k) := by
  have hsymbol : p.symbolOf k ≠ .longEnter := by
    unfold symbolOf
    split <;> cases k <;> first | decide | contradiction
  refine perform_of_scene (J := fun t =>
    submitted t.events = p.probeCommands (p.heightAt a) (p.symbolOf k) ∧
      t.panel.probe = p.probeAfter (p.heightAt a) (a.command 0) (p.symbolOf k))
    (ofKnob_of_key hkey hk) hkey fun s knob hs hlooks hcommands hsent => ?_
  rw [hscreen]
  have hnothing : submitted s.events = [] := by rw [submitted, hsent, List.map_nil]
  have hprobes := (Act.probes_manualProbe (a := a) (s := s) hsymbol).recovering
  rw [hs, hlooks, hcommands] at hprobes
  apply hprobes.mono
  all_goals
    rintro _ t ⟨hsubmits, hsession⟩
    rw [Scene.Submits, hnothing] at hsubmits
    exact ⟨hsubmits, hsession⟩

/-- A long click ends the probing. -/
theorem perform_longClick (hscreen : p.screen = .manualProbe) (hop : op.ofKnob)
    (hkey : p.keyOf op = some .longClick) : (p.perform op a).panel.screen ≠ .manualProbe := by
  refine perform_of_scene (J := fun t => t.panel.screen ≠ .manualProbe) hop hkey
    fun s knob _ _ _ _ => ?_
  rw [hscreen, symbolOf_longClick]
  exact Act.leaves_longEnter

/-- No way out of a screen leads to the one for probing. -/
theorem CallerFits.manualProbe_of_exits (h : p.CallerFits) (hq : q.showing ∈ p.exits)
    (hup : q.screen = .manualProbe) : p.screen = .manualProbe := by
  have hcases := h.cases_of_exits hq (by simp [hup])
  simpa [hup] using hcases

/-- No key brings the screen for probing up. -/
theorem CallerFits.manualProbe_of_key (h : p.CallerFits) (hop : op.ofKnob)
    (hkey : p.keyOf op = some k) (hup : (p.perform op a).panel.screen = .manualProbe) :
    p.screen = .manualProbe := by
  revert hup
  refine perform_of_scene (J := fun t => t.panel.screen = .manualProbe → p.screen = .manualProbe)
    hop hkey fun s knob hs _ _ _ => ?_
  have hfits : s.panel.CallerFits := hs ▸ persists_callerFits.awake h knob
  have hscreen : s.panel.screen = p.screen := by rw [hs]; rfl
  rw [← hscreen]
  have hhandled : (Act.handle s.panel.screen (p.symbolOf k)).Leaves
      (fun q => q.screen = .manualProbe → s.panel.screen = .manualProbe) a s := by
    apply (Act.leadsTo_handle (p.symbolOf k)).mono
    · exact fun _ _ ht => hfits.manualProbe_of_exits ht
    · exact fun _ _ ht => hfits.manualProbe_of_exits ht
  exact hhandled.recovering fun text hq hup => hq (probesStill_withMessage _ text hup).1

/-- What an operation makes of the step size while the bed is probed. -/
def stepAfter (p : Panel) (op : Operation) : Nat :=
  if p.keyOf op = some .click then (p.probe.step + 1) % Act.probeSteps.length else p.probe.step

/-- A key after which the bed is still probed is a turn or a click. -/
theorem CallerFits.step_of_knob (h : p.CallerFits) (hop : op.ofKnob)
    (hup : (p.perform op a).panel.screen = .manualProbe) :
    p.screen = .manualProbe ∧ (p.perform op a).panel.probe.step = p.stepAfter op := by
  unfold stepAfter
  cases hkey : p.keyOf op with
  | none =>
    obtain ⟨knob, hact⟩ := act_of_ofKnob hop
    rw [hkey] at hact
    rw [perform_eq (hact a)] at hup ⊢
    exact ⟨hup, rfl⟩
  | some k =>
    have hscreen : p.screen = .manualProbe := h.manualProbe_of_key hop hkey hup
    have hlong : k ≠ .longClick := by
      rintro rfl
      exact perform_longClick hscreen hop hkey hup
    refine ⟨hscreen, ?_⟩
    rw [(probed_perform hscreen hkey hlong).2, probeAfter, symbolOf_isTurn]
    cases k with
    | up | down | fastUp | fastDown => exact p.probe.moved_step _ _
    | click => simp [symbolOf_click, Symbol.ofKey, Symbol.isTurn, Symbol.isCw, Symbol.isCcw]
    | longClick => contradiction

/-! ### Reports -/

/-- A change of the job brings other screens up. -/
theorem probesStill_followingJob (p : Panel) (r : Status) : p.ProbesStill (p.followingJob r) := by
  have hended : p.ProbesStill
      (({ p with lastJob := r.job, print := .fresh } : Panel).forced .jobEnded) :=
    fun hup => nomatch hup
  unfold followingJob
  dsimp only
  split
  · exact fun hup => ⟨hup, rfl⟩
  · split
    · split
      · exact fun hup => ⟨hup, rfl⟩
      · exact fun hup => nomatch hup
    · exact fun hup => ⟨hup, rfl⟩
    · exact hended
    · exact hended
    · exact hended
    · exact probesStill_withMessage { p with lastJob := r.job } _

/-- Keeping up with the print leaves the session going on. -/
theorem probesStill_followingPrint (p : Panel) (r : Status) :
    p.ProbesStill (p.followingPrint r) := by
  unfold followingPrint
  split <;> exact fun hup => ⟨hup, rfl⟩

/-- Waiting for the axes to be homed leaves the session going on. -/
theorem probesStill_followingHoming (p : Panel) (r : Status) :
    p.ProbesStill (p.followingHoming r) := by
  unfold followingHoming
  split
  · exact fun hup => ⟨hup, rfl⟩
  · split
    · split
      · exact fun hup => nomatch hup
      · exact fun hup => ⟨hup, rfl⟩
    · exact fun hup => ⟨hup, rfl⟩

/-- The message of a report leaves the session going on. -/
theorem probesStill_followingMessage (p : Panel) (r : Status) :
    p.ProbesStill (p.followingMessage r) := by
  unfold followingMessage
  split
  · exact fun hup => ⟨hup, rfl⟩
  · exact probesStill_withMessage { p with lastMessage := r.message } _

/-- Where the screen for probing is up after a look at the probing, a session goes on or has just
begun. -/
theorem followingProbe_probe (hup : (p.followingProbe r).screen = .manualProbe) :
    (p.followingProbe r).probe = if p.screen = .manualProbe then p.probe else .fresh := by
  have hprobe : r.probe.isSome = true := by
    have hshows := p.showsProbing_followingProbe r
    rwa [ShowsProbing, hup] at hshows
  have hforced (q : Panel) : (q.forced .probeStarted).probe = q.probe := by
    rw [forced, abandonEdit_eq]
  unfold followingProbe
  by_cases hscreen : p.screen = .manualProbe <;> simp [hprobe, hscreen, hforced]

/-- The changes for a report come to the job at most, or they leave what is found of the probing. -/
theorem after_probing {made : List (Panel → Panel)} (h : made <+: changesFor r) :
    p.after made = p ∨ p.after made = p.followingJob r ∨
      ((p.followingJob r).followingProbe r).ProbesStill (p.after made) := by
  let probed := (p.followingJob r).followingProbe r
  have hpressed : probed.ProbesStill (p.pressed r) := probesStill_followingPrint _ r
  have hbefore : probed.ProbesStill (p.beforeMessage r) :=
    hpressed.trans (probesStill_followingHoming _ r)
  have hall : probed.ProbesStill (p.following r) :=
    hbefore.trans (probesStill_followingMessage _ r)
  have hcases := after_cases (p := p) h
  simp only [List.mem_cons, List.not_mem_nil, or_false] at hcases
  obtain hsame | hsame | hsame | hsame | hsame | hsame := hcases <;> rw [hsame]
  · exact .inl rfl
  · exact .inr (.inl rfl)
  · exact .inr (.inr fun hup => ⟨hup, rfl⟩)
  · exact .inr (.inr hpressed)
  · exact .inr (.inr hbefore)
  · exact .inr (.inr hall)

/-- Where the screen for probing is up after a tick, the session goes on if that screen was up when
the panel came to look at the probing, and otherwise a new one has begun. -/
theorem tick_probe {now : Nat} (hreads : p.reads (.tick now) a = some r)
    (hup : (p.perform (.tick now) a).panel.screen = .manualProbe) :
    (p.perform (.tick now) a).panel.probe =
      if ((p.hearing now a r).followingJob r).screen = .manualProbe then
        (p.hearing now a r).probe
      else .fresh := by
  obtain ⟨made, hmade, -, hq⟩ := perform_tick_after hreads
  have hheard : (p.perform (.tick now) a).panel.lastJob = r.job :=
    congrArg Prod.snd (perform_heard_of_reads hreads)
  have hstill := (p.hearing now a r).probesStill_followingJob r
  rw [hq, idled_eq] at hup hheard ⊢
  dsimp only at hup hheard ⊢
  obtain hsame | hsame | hprobed := after_probing (p := p.hearing now a r) hmade
  · -- Where no change was made at all, the job is the one that was known before.
    have hjob : r.job = (p.hearing now a r).lastJob := by rw [← hheard, hsame]
    have hkept : (p.hearing now a r).followingJob r = { p.hearing now a r with lastJob := r.job } :=
      if_pos hjob
    rw [hsame] at hup ⊢
    rw [hkept, if_pos hup]
  · rw [hsame] at hup ⊢
    rw [if_pos hup]
    exact (hstill hup).2
  · obtain ⟨hprobing, hkept⟩ := hprobed hup
    rw [hkept, followingProbe_probe hprobing]
    split
    · next hscreen => exact (hstill hscreen).2
    · rfl

/-! ### Sessions -/

/-- A session begins: a tick finds the bed being probed, and when the panel comes to that, another
screen is up. -/
def EntersProbing (p : Panel) (op : Operation) (a : Answers) : Prop :=
  (p.perform op a).panel.screen = .manualProbe ∧
    ∃ now r, op = .tick now ∧ p.reads op a = some r ∧
      ((p.hearing now a r).followingJob r).screen ≠ .manualProbe

/-- A session begins with the first step size. -/
theorem EntersProbing.probe_eq (h : p.EntersProbing op a) :
    (p.perform op a).panel.probe = .fresh := by
  obtain ⟨hup, now, r, rfl, hreads, helsewhere⟩ := h
  rw [tick_probe hreads hup, if_neg helsewhere]

/-- The bed is probed in a session that was begun with so many clicks ago. -/
inductive ProbingSince : Panel → Nat → Prop where
  /-- The session has just begun. -/
  | entered {p : Panel} {op : Operation} {a : Answers} (h : p.Reachable)
    (henters : p.EntersProbing op a) : ProbingSince (p.perform op a).panel 0
  /-- The session goes on: the screen stays up, and no other session begins. -/
  | stayed {p : Panel} {op : Operation} {a : Answers} {clicks : Nat} (h : p.ProbingSince clicks)
    (hop : op ≠ .start) (hup : (p.perform op a).panel.screen = .manualProbe)
    (hsame : ¬ p.EntersProbing op a) :
    ProbingSince (p.perform op a).panel
      (if p.keyOf op = some .click then clicks + 1 else clicks)

/-- A session that does not begin goes on, and its step size changes by clicks only. -/
theorem Reachable.step_of_stays (h : p.Reachable) (hop : op ≠ .start)
    (hup : (p.perform op a).panel.screen = .manualProbe) (hsame : ¬ p.EntersProbing op a) :
    p.screen = .manualProbe ∧ (p.perform op a).panel.probe.step = p.stepAfter op := by
  have hfits : p.CallerFits := h.callerFits
  cases op with
  | start => contradiction
  | key _ | rotate _ _ | sample _ _ _ | button _ _ | poll _ => exact hfits.step_of_knob rfl hup
  | tick now =>
    cases hreads : p.reads (.tick now) a with
    | none =>
      rw [perform_tick_unread hreads] at hup ⊢
      exact hfits.step_of_knob rfl hup
    | some r =>
      have hjob : ((p.hearing now a r).followingJob r).screen = .manualProbe :=
        Classical.not_not.mp fun helsewhere => hsame ⟨hup, now, r, rfl, hreads, helsewhere⟩
      rw [tick_probe hreads hup, if_pos hjob]
      have hpolled := (probesStill_followingJob _ r hjob).1
      have hknob : (Operation.poll now).ofKnob := rfl
      exact hfits.step_of_knob hknob hpolled
  | message text =>
    have hmessage : (p.perform (.message text) a).panel = p.withMessage text := by
      apply (perform_iff (h := fun t => t.panel = p.withMessage text) p _ a).mpr
      exact (Act.leaves_showMessage (I := (· = p.withMessage text)) text).mpr rfl
    rw [hmessage] at hup ⊢
    obtain ⟨hscreen, hprobe⟩ := p.probesStill_withMessage text hup
    exact ⟨hscreen, congrArg ProbeSession.step hprobe⟩
  | iconFinder =>
    have hicons := (showing_eq_iff.mp (p.showing_perform_iconFinder a)).1
    rw [hup] at hicons
    contradiction

/-- In a session, the clicks go through the step sizes in turn. -/
theorem ProbingSince.step_eq (h : p.ProbingSince clicks) :
    p.Reachable ∧ p.probe.step = clicks % Act.probeSteps.length := by
  induction h with
  | entered h henters =>
    have ⟨_, now, _, hop, _⟩ := henters
    refine ⟨h.operated _ (by simp [hop]), ?_⟩
    rw [henters.probe_eq]
    rfl
  | stayed _ hop hup hsame ih =>
    obtain ⟨hreached, hstep⟩ := ih
    refine ⟨hreached.operated _ hop, ?_⟩
    rw [(hreached.step_of_stays hop hup hsame).2, stepAfter, hstep]
    split
    · rw [Nat.mod_add_mod]
    · rfl

/-- A panel that was just switched on does not probe. -/
theorem started_ne_manualProbe (s : Settings) (width height : Nat) (a : Answers) :
    ((ofSettings s width height).perform .start a).panel.screen ≠ .manualProbe := by
  have hnew : (ofSettings s width height).screen ≠ .manualProbe := by simp [ofSettings]
  apply (perform_iff (h := fun t => t.panel.screen ≠ .manualProbe) _ .start a).mpr
  refine Act.Leaves.recovering (I := (·.screen ≠ .manualProbe)) withMessage_ne_manualProbe ?_
  rw [Act.leaves_bind, Act.ensures_panel]
  exact ((Act.leaves_draw _).mpr hnew).bind fun _ _ _ => (Act.leaves_goTo _).mpr (by simp)

/-- The screen for probing is up in sessions only. -/
theorem Reachable.exists_probingSince (h : p.Reachable) (hscreen : p.screen = .manualProbe) :
    ∃ clicks, p.ProbingSince clicks := by
  induction h with
  | started s width height a => exact absurd hscreen (started_ne_manualProbe s width height a)
  | @operated p op a h hop ih =>
    by_cases henters : p.EntersProbing op a
    · exact ⟨0, .entered h henters⟩
    · obtain ⟨clicks, hsince⟩ := ih (h.step_of_stays hop hscreen henters).1
      exact ⟨_, hsince.stayed hop hscreen henters⟩

end Panel

/-- A key moves the nozzle if that is allowed: the command is submitted, and once the printer has
taken it nothing is out of range. Otherwise nothing is submitted, and the move is out of range. -/
def Scene.MovesIf (t : Scene) (allowed : Prop) (um : Int) (refusal : Option Refusal) : Prop :=
  (allowed → submitted t.events = [.probeAdjust um] ∧
    (refusal = none → t.panel.probe.outOfRange = false)) ∧
  (¬ allowed → submitted t.events = [] ∧ t.panel.probe.outOfRange = true)

namespace Panel

variable {p : Panel} {op : Operation} {a : Answers} {k : Key}

/-- A turn whose commands are known. -/
theorem movesIf_of_commands {allowed : Prop} [Decidable allowed] {um : Int}
    (hscreen : p.screen = .manualProbe) (hkey : p.keyOf op = some k)
    (hturn : (Symbol.ofKey k).isTurn = true)
    (hcommands : p.probeCommands (p.heightAt a) (p.symbolOf k) =
      if allowed then [.probeAdjust um] else []) :
    (p.perform op a).MovesIf allowed um (a.command 0) := by
  have hlong : k ≠ .longClick := by
    rintro rfl
    contradiction
  obtain ⟨hsubmitted, hprobe⟩ := probed_perform (a := a) hscreen hkey hlong
  rw [hcommands] at hsubmitted
  rw [probeAfter, symbolOf_isTurn, if_pos hturn, hcommands] at hprobe
  constructor
  · intro hallowed
    simp only [hallowed, if_true] at hsubmitted hprobe
    refine ⟨hsubmitted, fun haccepted => ?_⟩
    simp [hprobe, haccepted, ProbeSession.moved]
  · intro hallowed
    simp only [hallowed, if_false] at hsubmitted hprobe
    exact ⟨hsubmitted, by simp [hprobe, ProbeSession.moved]⟩

/-- While the bed is probed, a clockwise turn lowers the nozzle by the chosen step exactly if it
ends a millimetre above the lower end of the travel or higher, and a counter-clockwise turn raises
it exactly if it ends a millimetre below the upper end or lower. Any other turn sends nothing
and counts as out of range; a turn that the printer takes ends that, and so does a click. The screen
is up in sessions only, and the step is the one that the clicks of the session have come to. -/
theorem Reachable.probing_exact (h : p.Reachable) (hscreen : p.screen = .manualProbe) :
    (∃ clicks, p.ProbingSince clicks) ∧
    (∀ clicks, p.ProbingSince clicks → p.probe.step = clicks % 3) ∧
    ∃ step, Act.probeSteps[p.probe.step]? = some step ∧
      ∀ op a k, p.keyOf op = some k →
        let um := (p.reportAt a 0).probe.getD 0
        let z := p.settings.limits.z
        let t := p.perform op a
        ((Symbol.ofKey k).isCw = true →
          t.MovesIf (1000 * (z.min + 1) ≤ um - step) (-step) (a.command 0)) ∧
        ((Symbol.ofKey k).isCcw = true →
          t.MovesIf (um + step ≤ 1000 * (z.max - 1)) step (a.command 0)) ∧
        (k = .click →
          submitted t.events = [] ∧ t.panel.probe = ⟨(p.probe.step + 1) % 3, false⟩) := by
  have hsessions := h.exists_probingSince hscreen
  refine ⟨hsessions, fun clicks hsince => hsince.step_eq.2, p.probeStep, ?_, ?_⟩
  · obtain ⟨clicks, hsince⟩ := hsessions
    have hsteps : ∀ i < 3, Act.probeSteps[i]? = some (Act.probeSteps.getD (i % 3) 0) := by decide
    have hlt : p.probe.step < 3 := hsince.step_eq.2 ▸ Nat.mod_lt _ (by decide)
    exact hsteps _ hlt
  · intro op a k hkey um z t
    refine ⟨fun hcw => ?_, fun hccw => ?_, ?_⟩
    · apply movesIf_of_commands hscreen hkey (by simp [Symbol.isTurn, hcw])
      exact probeCommands_of_isCw ((p.symbolOf_isCw k).trans hcw)
    · apply movesIf_of_commands hscreen hkey (by simp [Symbol.isTurn, hccw])
      exact probeCommands_of_isCcw ((p.symbolOf_isCcw k).trans hccw)
    · rintro rfl
      obtain ⟨hsubmitted, hprobe⟩ := probed_perform (a := a) hscreen hkey (by decide)
      rw [symbolOf_click] at hsubmitted hprobe
      exact ⟨hsubmitted, hprobe⟩

/-- With the second step size the nozzle comes to a millimetre above the lower end, and not a
micrometre lower. -/
theorem probing_exact_lowest :
    let reporting (um : Int) : Answers :=
      { Answers.smooth with status := fun _ => some { Status.atRest with probe := some um } }
    let started := ((ofSettings .standard 240 320).run [(.start, .smooth)]).1
    let entered := (started.perform (.tick 0) (reporting 2500)).panel
    let p := (entered.perform (.key .click) .smooth).panel
    p.Reachable ∧ p.screen = .manualProbe ∧ p.ProbingSince 1 ∧ p.probe.step = 1 ∧
      submitted (p.perform (.key .down) (reporting 1100)).events = [.probeAdjust (-100)] ∧
      submitted (p.perform (.key .down) (reporting 1099)).events = [] ∧
      (p.perform (.key .down) (reporting 1099)).panel.probe.outOfRange = true := by
  intro reporting started entered p
  have hstarted : started.Reachable := reachable_of_start .standard 240 320 .smooth (by simp)
  have henters : started.EntersProbing (.tick 0) (reporting 2500) :=
    ⟨by decide +kernel, 0, { Status.atRest with probe := some 2500 }, rfl, by decide +kernel,
      by decide +kernel⟩
  have hscreen : p.screen = .manualProbe := by decide +kernel
  have hsince : p.ProbingSince 1 := by
    have hbegun : entered.ProbingSince 0 := .entered hstarted henters
    have hsame : ¬ entered.EntersProbing (.key .click) .smooth := by rintro ⟨-, _, _, ⟨⟩, -⟩
    exact hbegun.stayed (by decide) hscreen hsame
  have hlimits : p.settings.limits = .standard := by decide +kernel
  have hreached : p.Reachable := hsince.step_eq.1
  -- The run is not to be computed once more.
  clear_value p
  obtain ⟨-, hsteps, step, hstep, hkeys⟩ := hreached.probing_exact hscreen
  have hindex : p.probe.step = 1 := hsteps 1 hsince
  rw [hindex] at hstep
  cases hstep
  have hdown (um : Int) :
      (p.perform (.key .down) (reporting um)).MovesIf (1000 ≤ um - 100) (-100) none := by
    have hmoves := (hkeys (.key .down) (reporting um) .down rfl).1 rfl
    rw [hlimits] at hmoves
    exact hmoves
  have hlowest := (hdown 1100).1 (by decide)
  have hlower := (hdown 1099).2 (by decide)
  exact ⟨hreached, hscreen, hsince, hindex, hlowest.1, hlower⟩

end Panel

end PrinterPanel
