import PrinterPanel.Proofs.Invariant
import PrinterPanel.Proofs.Recovery

/-!
# Display calls that fail

A display call that fails is passed over, and mostly that is all. Three failures leave a trace: one
that keeps an accepted edit from doing what it is for, one that cuts the changes for a report short,
and one that keeps the main menu from coming up when the display is switched on. A run without these
ends every operation as if no call had failed, and an operation with one of them does not.
-/

namespace PrinterPanel

open Display (Drawing)

/-- An operation that works the knob and does not look at the printer. -/
def Operation.ofKnob : Operation → Bool
  | key _ | rotate .. | sample .. | button .. | poll _ => true
  | start | tick _ | message _ | iconFinder => false

namespace Panel

variable {p : Panel} {op : Operation} {a : Answers}

/-- An edit is accepted, and the call that shows its settled value fails. That is the first call,
or the second if the display has to be lit. -/
def LosesEdit (p : Panel) (op : Operation) (a : Answers) : Prop :=
  p.keyOf op = some .click ∧ p.screen.isEditor ∧
    ∃ e, p.edit = some e ∧ e.effect.Matters p.settings ∧
      a.display (if p.dimmed then 1 else 0) ≠ none

/-- A call fails while the panel is brought in line with a report, and changes are left undone. -/
def CutsReport (p : Panel) (op : Operation) (a : Answers) : Prop :=
  ∃ now s r f t, op = .tick now ∧ Act.keyOfKnob (·.poll now) a (.opening p) = .ok () s ∧
    a.status s.looks = some r ∧
    Act.reconcile r s.panel.lastStatus a (s.heard r) = .error (.display f) t ∧
    t.panel ≠ (s.heard r).panel.following r

/-- The call that lights the display fails when it is switched on, on another screen than the main
menu. -/
def MissesMenu (p : Panel) (op : Operation) (a : Answers) : Prop :=
  op = .start ∧ p.screen ≠ .mainMenu ∧ a.display 0 ≠ none

/-- An operation in which a call that fails leaves a trace. -/
def Harmed (p : Panel) (op : Operation) (a : Answers) : Prop :=
  p.LosesEdit op a ∨ p.CutsReport op a ∨ p.MissesMenu op a

/-- A poll makes no key but a long click. -/
theorem eq_longClick_of_poll {knob : Knob} {now : Nat} {k : Key}
    (h : (knob.poll now).1 = some k) : k = .longClick := by
  unfold Knob.poll at h
  split at h
  · contradiction
  · split at h
    · exact (Option.some.inj h).symm
    · contradiction

/-- Waiting never delivers a click. -/
theorem poll_ne_click (k : Knob) (now : Nat) : (k.poll now).1 ≠ some .click :=
  fun h => absurd (eq_longClick_of_poll h) (by decide)

/-- An operation of the knob delivers its key, if there is one, and does nothing else. -/
theorem act_of_ofKnob (h : op.ofKnob) :
    ∃ knob, ∀ a, op.act a (.opening p) =
      Act.keyIfAny (p.keyOf op) a (.opening { p with knob := knob }) := by
  have hknob (decode : Knob → Option Key × Knob) (hdecode : (decode p.knob).1 = p.keyOf op) :
      ∃ knob, ∀ a, Act.keyOfKnob decode a (.opening p) =
        Act.keyIfAny (p.keyOf op) a (.opening { p with knob := knob }) := by
    refine ⟨(decode p.knob).2, fun a => ?_⟩
    rw [Act.keyOfKnob_eq, ← hdecode]
    rfl
  cases op with
  | key k => exact ⟨p.knob, fun _ => rfl⟩
  | rotate r now => exact hknob (fun k => (some (k.rotate r now).1, (k.rotate r now).2)) rfl
  | sample x y now => exact hknob (·.sample x y now) rfl
  | button down now => exact hknob (·.button down now) rfl
  | poll now => exact hknob (·.poll now) rfl
  | start | tick _ | message _ | iconFinder => contradiction

/-- Only an operation of the knob delivers another key than a long click. -/
theorem ofKnob_of_key {k : Key} (hkey : p.keyOf op = some k) (hk : k ≠ .longClick) :
    op.ofKnob = true := by
  cases op with
  | tick now => exact absurd (eq_longClick_of_poll hkey) hk
  | start | message _ | iconFinder => contradiction
  | key | rotate | sample | button | poll => rfl

/-- Only an operation of the knob delivers a click. -/
theorem ofKnob_of_click (h : p.keyOf op = some .click) : op.ofKnob = true :=
  ofKnob_of_key h (by decide)

/-- What the screen makes of the key of an operation, which is the first to look at the printer and
to send anything. -/
theorem perform_of_scene {J : Scene → Prop} {k : Key} (hop : op.ofKnob) (hkey : p.keyOf op = some k)
    (h : ∀ (s : Scene) (knob : Knob), s.panel = { p.awake with knob := knob } → s.looks = 0 →
      s.commands = 0 → sentCommands s.events = [] →
      (Act.recovering (Act.handle p.screen (p.symbolOf k))).Ensures (fun _ t => J t)
        (fun _ t => J t) a s) :
    J (p.perform op a) := by
  obtain ⟨knob, hact⟩ := act_of_ofKnob hop
  rw [hkey] at hact
  let s : Scene := .opening { p with knob := knob }
  have hend : op.act a (.opening p) = _ := (hact a).trans (Act.key_eq_waking (s := s) k)
  have hhandled := h (Act.woken s (s.waking a)) knob rfl rfl rfl
    (by simp [Act.woken, Scene.afterCalls, s, Scene.opening])
  apply (perform_iff (h := J) p op a).mpr
  rw [Act.Ensures, hend]
  exact hhandled

/-- An operation that delivers a click does nothing else but turn the knob. -/
theorem act_of_click (h : p.keyOf op = some .click) :
    ∃ knob, ∀ a, op.act a (.opening p) = Act.key .click a (.opening { p with knob := knob }) := by
  obtain ⟨knob, hact⟩ := act_of_ofKnob (ofKnob_of_click h)
  rw [h] at hact
  exact ⟨knob, hact⟩

/-- A key that does not lose an edit keeps what matters. -/
theorem kept_of_not_losesEdit {k : Key} {shown : Drawing} {knob : Knob} (hk : p.keyOf op = some k)
    (h : ¬ p.LosesEdit op a) :
    Act.Kept (Act.woken (.opening { p with knob := knob }) shown) (p.symbolOf k) a := by
  intro heditor hsymbol e he hmatters
  have hdisplay : a.display (if p.dimmed then 1 else 0) = none := by
    apply Classical.not_not.mp
    intro hfails
    exact h ⟨by rw [hk, symbolOf_eq_enter hsymbol], heditor, e, he, hmatters, hfails⟩
  have hcalls : (Act.woken (.opening { p with knob := knob }) shown).displayCalls =
      if p.dimmed then 1 else 0 := Nat.zero_add _
  rw [hcalls]
  exact hdisplay

/-- Switching on lights the display and then shows the main menu. -/
private theorem start_eq :
    Act.start a (.opening p) =
      Act.recovering (Act.draw [.light p.settings.screen.brightness] >>= fun _ =>
        Act.goTo .mainMenu) a (.opening p) := rfl

/-- Once the display is lit, the main menu comes up. -/
theorem start_lit (h : a.display 0 = none) :
    Act.start a (.opening p) = Act.recovering (Act.goTo .mainMenu) a
      ((Scene.opening p).afterCalls [.light p.settings.screen.brightness] 1) := by
  have hlit : Act.draw [.light p.settings.screen.brightness] a (.opening p) =
      .ok () ((Scene.opening p).afterCalls [.light p.settings.screen.brightness] 1) := by
    apply Act.eq_ok
    simp [Act.draw, Scene.opening, h]
  rw [start_eq, Act.recovering_eq, Act.recovering_eq, Act.bind_eq hlit]

/-- If the display cannot be lit, the panel stays as it is. -/
theorem start_unlit {f : Display.Failure} (h : a.display 0 = some f) :
    Act.start a (.opening p) = .ok () ((Scene.opening p).afterCalls [] 1) := by
  have hunlit : Act.draw [.light p.settings.screen.brightness] a (.opening p) =
      .error (.display f) ((Scene.opening p).afterCalls [] 1) := by
    apply Act.eq_error
    simp [Act.draw, Scene.opening, h]
  rw [start_eq, Act.recovering_eq, Act.bind_eq_error hunlit]
  rfl

/-- A display that never fails is lit and shows the main menu. -/
theorem start_clear :
    ∃ u, Act.start a.clear (.opening p) = .ok () u ∧
      (Scene.opening { p with screen := .mainMenu }).Redrawn u := by
  let light : Drawing := [.light p.settings.screen.brightness]
  obtain ⟨u, hu, hdrawn⟩ :=
    Act.goTo_clear (a := a) (s := (Scene.opening p).afterCalls light 1) .mainMenu
  refine ⟨u, ?_, (Scene.redrawn_afterCalls _ light 1).trans hdrawn⟩
  rw [start_lit rfl, Act.recovering_eq, hu]

/-- The main menu comes up, unless the display cannot be lit and another screen is up. -/
theorem steady_start (h : ¬ p.MissesMenu .start a) :
    Act.start.Steady a (.opening p) (.opening p) := by
  unfold Act.Steady
  cases hdisplay : a.display 0 with
  | none =>
    let lit : Scene := (Scene.opening p).afterCalls [.light p.settings.screen.brightness] 1
    have hgoTo : (Act.goTo .mainMenu).DrawsLast a lit lit.events lit.displayCalls :=
      (Act.drawsLast_goTo .mainMenu).mpr rfl
    rw [start_lit hdisplay, start_lit rfl]
    exact hgoTo.recovering (Scene.Agrees.refl lit)
  | some f =>
    have hscreen : p.screen = .mainMenu := by
      apply Classical.not_not.mp
      intro hother
      exact h ⟨rfl, hother, by simp [hdisplay]⟩
    have hsame : ({ p with screen := .mainMenu } : Panel) = p := by rw [← hscreen]
    obtain ⟨u, hu, hdrawn⟩ := start_clear (p := p) (a := a)
    rw [hsame] at hdrawn
    exact ⟨_, u, start_unlit hdisplay, hu,
      (Scene.redrawn_afterCalls _ _ _).agrees.symm.trans hdrawn.agrees⟩

/-- Looking at the knob accepts no edit. -/
theorem steady_poll (now : Nat) :
    (Act.keyOfKnob (·.poll now)).Steady a (.opening p) (.opening p) := by
  apply Act.steady_keyOfKnob (Scene.Agrees.refl _)
  intro k shown hk heditor hsymbol
  exact absurd (symbolOf_eq_enter hsymbol ▸ hk) (poll_ne_click p.knob now)

/-- A tick goes alike on any display, if no call fails while a report is followed. -/
theorem steady_tick {now : Nat} (h : ¬ p.CutsReport (.tick now) a) :
    (Act.tick now).Steady a (.opening p) (.opening p) := by
  rw [Act.tick_eq]
  apply (steady_poll now).bind
  intro s t hs hst
  have hlooks : a.clear.status t.looks = a.status s.looks := by rw [hst.looks]; rfl
  unfold Act.Steady
  cases hstatus : a.status s.looks with
  | none =>
    rw [Act.hear_eq_of_none hstatus, Act.hear_eq_of_none (hlooks.trans hstatus)]
    exact ⟨_, _, rfl, rfl, hst.panel, hst.sent, hst.commands, by rw [hst.looks]⟩
  | some r =>
    have hwhole (f : Display.Failure) (u : Scene)
        (hu : Act.reconcile r s.panel.lastStatus a (s.heard r) = .error (.display f) u) :
        u.panel = (s.heard r).panel.following r := by
      apply Classical.not_not.mp
      intro hcut
      exact h ⟨now, s, r, f, u, rfl, hs, hstatus, hu, hcut⟩
    rw [Act.hear_eq_of_some hstatus, Act.hear_eq_of_some (hlooks.trans hstatus), ← hst.panel]
    apply (Act.steady_reconcile (hst.heard r) hwhole).bind
    exact fun _ _ _ hend => Act.steady_countIdleTick hend

/-- An operation without harm ends as if no display call had failed. -/
theorem steady_act (h : ¬ p.Harmed op a) : op.act.Steady a (.opening p) (.opening p) := by
  obtain ⟨hedit, hreport, hmenu⟩ :
      ¬ p.LosesEdit op a ∧ ¬ p.CutsReport op a ∧ ¬ p.MissesMenu op a := by
    simpa [Harmed] using h
  have hagree := Scene.Agrees.refl (.opening p)
  have hknob (decode : Knob → Option Key × Knob)
      (hdecode : ∀ k, (decode p.knob).1 = some k → p.keyOf op = some k) :
      (Act.keyOfKnob decode).Steady a (.opening p) (.opening p) := by
    apply Act.steady_keyOfKnob hagree
    intro k shown hk
    exact kept_of_not_losesEdit (hdecode k hk) hedit
  cases op with
  | start => exact steady_start hmenu
  | key k =>
    apply Act.steady_key hagree
    intro shown
    have hkept : Act.Kept (Act.woken (.opening { p with knob := p.knob }) shown) (p.symbolOf k) a :=
      kept_of_not_losesEdit rfl hedit
    exact hkept
  | rotate r now =>
    exact hknob (fun k => (some (k.rotate r now).1, (k.rotate r now).2)) fun _ hk => hk
  | sample x y now => exact hknob (·.sample x y now) fun _ hk => hk
  | button down now => exact hknob (·.button down now) fun _ hk => hk
  | poll now => exact hknob (·.poll now) fun _ hk => hk
  | tick now => exact steady_tick hreport
  | message text => exact Act.steady_showMessage text hagree
  | iconFinder =>
    let q : Panel := { p.abandonEdit with
      places := { p.abandonEdit.places with icon := .first } }
    have hopen (b : Answers) : Act.openIconFinder b (.opening p) =
        Act.recovering (Act.goTo .iconFinder) b (.opening q) := rfl
    have hgoTo : (Act.goTo .iconFinder).DrawsLast a (.opening q) [] 0 :=
      (Act.drawsLast_goTo .iconFinder).mpr rfl
    have hsteady := hgoTo.recovering (t := .opening q) (Scene.Agrees.refl _)
    unfold Act.Steady at hsteady ⊢
    rw [← hopen, ← hopen] at hsteady
    exact hsteady

/-! ### Operations with harm -/

/-- An operation in which an edit is lost does not end as if no display call had failed. -/
theorem LosesEdit.parted (h : p.LosesEdit op a) : op.act.Parted a (.opening p) (.opening p) := by
  obtain ⟨hkey, heditor, e, he, hmatters, hfails⟩ := h
  obtain ⟨knob, hclick⟩ := act_of_click hkey
  have hparted : (Act.key .click).Parted a (.opening { p with knob := knob })
      (.opening { p with knob := knob }) :=
    Act.parted_key (Scene.Agrees.refl _) heditor he hmatters (by
      rw [show (Scene.opening { p with knob := knob }).displayCalls = 0 from rfl, Nat.zero_add]
      exact hfails)
  unfold Act.Parted
  rw [hclick, hclick]
  exact hparted

/-- A display that fails while a report is followed sets the two runs apart. -/
theorem CutsReport.parted (h : p.CutsReport op a) : op.act.Parted a (.opening p) (.opening p) := by
  obtain ⟨now, s, r, f, u, rfl, hs, hstatus, hcut, hpart⟩ := h
  have htick : (Act.tick now).Parted a (.opening p) (.opening p) := by
    rw [Act.tick_eq]
    apply (steady_poll now).parted_bind
    intro s' t hs' hst
    cases hs.symm.trans hs'
    have hlooks : a.clear.status t.looks = a.status s.looks := by rw [hst.looks]; rfl
    unfold Act.Parted
    rw [Act.hear_eq_of_some hstatus, Act.hear_eq_of_some (hlooks.trans hstatus), ← hst.panel]
    exact Act.parted_reconcile (hst.heard r) hcut hpart
  exact htick

/-- A display that cannot be lit at the start sets the two runs apart. -/
theorem MissesMenu.parted (h : p.MissesMenu op a) : op.act.Parted a (.opening p) (.opening p) := by
  obtain ⟨rfl, hscreen, hfails⟩ := h
  obtain ⟨f, hf⟩ := Option.ne_none_iff_exists'.mp hfails
  obtain ⟨u, hu, hdrawn⟩ := start_clear (p := p) (a := a)
  refine ⟨_, u, start_unlit hf, hu, ?_⟩
  rintro ⟨hsame, -⟩
  exact hscreen (congrArg (·.screen) (hsame.trans hdrawn.panel_eq))

/-- A failed display call that leaves a trace does so at once. -/
theorem Harmed.parted (h : p.Harmed op a) : op.act.Parted a (.opening p) (.opening p) := by
  obtain h | h | h := h
  · exact h.parted
  · exact h.parted
  · exact h.parted

/-! ### Runs -/

/-- An operation ends as if no display call had failed exactly if it is without harm. -/
theorem perform_clear_iff (p : Panel) (op : Operation) (a : Answers) :
    ((p.perform op a).panel = (p.perform op a.clear).panel ∧
      sentCommands (p.perform op a).events = sentCommands (p.perform op a.clear).events) ↔
      ¬ p.Harmed op a := by
  constructor
  · intro hsame h
    obtain ⟨s, t, hs, ht, happart⟩ := h.parted
    rw [perform_eq hs, perform_eq ht] at hsame
    exact happart hsame
  · intro h
    obtain ⟨s, t, hs, ht, hagree⟩ := steady_act h
    rw [perform_eq hs, perform_eq ht]
    exact ⟨hagree.panel, hagree.sent⟩

/-- No operation of a run is harmed. -/
def Unharmed (p : Panel) : List (Operation × Answers) → Prop
  | [] => True
  | (op, a) :: rest => ¬ p.Harmed op a ∧ (p.perform op a).panel.Unharmed rest

end Panel

/-- The same run on a display that never fails. -/
def withClearDisplay (ops : List (Operation × Answers)) : List (Operation × Answers) :=
  ops.map fun x => (x.1, x.2.clear)

namespace Panel

/-- Two runs from a panel end in the same panel, after the same commands. -/
def RunsAlike (p : Panel) (xs ys : List (Operation × Answers)) : Prop :=
  (p.run xs).1 = (p.run ys).1 ∧ sentCommands (p.run xs).2 = sentCommands (p.run ys).2

/-- Two runs are alike in either order. -/
theorem RunsAlike.symm {p : Panel} {xs ys : List (Operation × Answers)} (h : p.RunsAlike xs ys) :
    p.RunsAlike ys xs := ⟨h.1.symm, h.2.symm⟩

/-- Runs that are alike to the same run are alike. -/
theorem RunsAlike.trans {p : Panel} {xs ys zs : List (Operation × Answers)}
    (hxy : p.RunsAlike xs ys) (hyz : p.RunsAlike ys zs) : p.RunsAlike xs zs :=
  ⟨hxy.1.trans hyz.1, hxy.2.trans hyz.2⟩

/-- After an operation without harm, runs are alike if their rests are. -/
theorem runsAlike_cons {p : Panel} {op : Operation} {a : Answers} (h : ¬ p.Harmed op a)
    (xs ys : List (Operation × Answers)) :
    p.RunsAlike ((op, a) :: xs) ((op, a.clear) :: ys) ↔ (p.perform op a).panel.RunsAlike xs ys := by
  obtain ⟨hpanel, hsent⟩ := (p.perform_clear_iff op a).mpr h
  simp only [RunsAlike, run, sentCommands_append, ← hpanel, ← hsent, List.append_cancel_left_eq]

/-- A run without harm is one on a display that never fails, after every operation. -/
theorem runsAlike_clear_iff {p : Panel} {ops : List (Operation × Answers)} :
    (∀ n, p.RunsAlike (ops.take n) (withClearDisplay (ops.take n))) ↔ p.Unharmed ops := by
  induction ops generalizing p with
  | nil => simp [RunsAlike, Unharmed, withClearDisplay]
  | cons x rest ih =>
    obtain ⟨op, a⟩ := x
    constructor
    · intro h
      have hfirst : ¬ p.Harmed op a := by
        apply (p.perform_clear_iff op a).mp
        have hone := h 1
        simpa [RunsAlike, withClearDisplay, run] using hone
      refine ⟨hfirst, ih.mp fun n => ?_⟩
      exact (runsAlike_cons hfirst _ _).mp (h (n + 1))
    · rintro ⟨hfirst, hrest⟩ n
      cases n with
      | zero => exact ⟨rfl, rfl⟩
      | succ n => exact (runsAlike_cons hfirst _ _).mpr (ih.mpr hrest n)

/-- Of runs with the same operations and the same answers of the printer, one without harm settles
what is sent and where the panel is after every operation. Another one, in which other display calls
fail, does the same exactly if it is without harm, too. -/
theorem runsAlike_iff_unharmed {p : Panel} {xs ys : List (Operation × Answers)}
    (hsame : withClearDisplay xs = withClearDisplay ys) (hys : p.Unharmed ys) :
    (∀ n, p.RunsAlike (xs.take n) (ys.take n)) ↔ p.Unharmed xs := by
  have hclear (n : Nat) : withClearDisplay (xs.take n) = withClearDisplay (ys.take n) := by
    simp only [withClearDisplay] at hsame ⊢
    rw [List.map_take, List.map_take, hsame]
  have hreference (n : Nat) : p.RunsAlike (ys.take n) (withClearDisplay (ys.take n)) :=
    runsAlike_clear_iff.mpr hys n
  rw [← runsAlike_clear_iff]
  constructor
  · intro h n
    rw [hclear]
    exact (h n).trans (hreference n)
  · intro h n
    have hx := h n
    rw [hclear] at hx
    exact hx.trans (hreference n).symm

/-- A menu that is drawn in part and a step that is not drawn at all leave no trace. -/
theorem runsAlike_navigation :
    let p := Panel.ofSettings .standard 240 320
    let failsAt (k : Nat) : Answers :=
      { Answers.smooth with display := fun n => if n = k then some .transport else none }
    let xs := [(Operation.start, failsAt 2), (.key .down, failsAt 0)]
    let ys := [(Operation.start, Answers.smooth), (.key .down, .smooth)]
    withClearDisplay xs = withClearDisplay ys ∧ p.Unharmed ys ∧ p.Unharmed xs ∧
      ∀ n, p.RunsAlike (xs.take n) (ys.take n) := by
  intro p failsAt xs ys
  have hsame : withClearDisplay xs = withClearDisplay ys := rfl
  have hmain : p.screen = .mainMenu := rfl
  have hxs : p.Unharmed xs := by
    simp [xs, Unharmed, Harmed, LosesEdit, CutsReport, MissesMenu, keyOf, hmain]
  have hys : p.Unharmed ys := by
    simp [ys, Unharmed, Harmed, LosesEdit, CutsReport, MissesMenu, keyOf, hmain]
  exact ⟨hsame, hys, hxs, (runsAlike_iff_unharmed hsame hys).mpr hxs⟩

/-- An accepted Z offset is not sent if its settled value cannot be shown. -/
theorem zOffset_lost :
    let p := Panel.ofSettings .standard 240 320
    let fails : Answers := { Answers.smooth with display := fun _ => some .transport }
    let keys := [.down, .click, .down, .down, .down, .down, .click].map fun k =>
      (Operation.key k, Answers.smooth)
    let opened := (Operation.start, Answers.smooth) :: keys
    let xs := opened ++ [(.key .click, fails)]
    let ys := opened ++ [(.key .click, .smooth)]
    withClearDisplay xs = withClearDisplay ys ∧
      sentCommands (p.run xs).2 = [] ∧ sentCommands (p.run ys).2 = [(.zOffset 0, true)] := by
  intro p fails keys opened xs ys
  exact ⟨rfl, by decide +kernel, by decide +kernel⟩

end Panel

end PrinterPanel
