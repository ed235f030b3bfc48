import PrinterPanel.Proofs.DisplayFailure
import PrinterPanel.Proofs.Parts
import PrinterPanel.Proofs.Readings

/-!
# What an operation draws

Apart from lighting and dimming the display, every step of an operation draws parts, each of them
as a whole or up to a call that fails. The backlight is set at two places only: before the key that
wakes a dimmed display is handled, and after a report when the user has been away for long.
-/

namespace PrinterPanel

open Display (Canvas Part Drawing)

/-- From one scene on to another one, what was drawn is put together from parts, and the panel
remains one that can be drawn. -/
def Scene.Composes (c : Canvas) (s t : Scene) : Prop :=
  t.panel.Drawable c ∧ s.displayCalls ≤ t.displayCalls ∧
    ∃ d, c.Composed d ∧ drawnCalls t.events = drawnCalls s.events ++ d

namespace Scene.Composes

variable {c : Canvas} {s t u : Scene}

/-- A scene composes itself out of no parts at all. -/
theorem refl (h : s.panel.Drawable c) : s.Composes c s :=
  ⟨h, Nat.le_refl _, [], .nil, by simp⟩

/-- Parts that are drawn one after the other are composed together. -/
theorem trans (hst : s.Composes c t) (htu : t.Composes c u) : s.Composes c u := by
  obtain ⟨-, hcalls, d, hd, hevents⟩ := hst
  obtain ⟨h, hcalls', d', hd', hevents'⟩ := htu
  refine ⟨h, Nat.le_trans hcalls hcalls', d ++ d', hd.append hd', ?_⟩
  rw [hevents', hevents, List.append_assoc]

/-- A drawing that is composed of parts adds these. -/
theorem afterCalls {d : Drawing} (h : s.panel.Drawable c) (hd : c.Composed d) (calls : Nat) :
    s.Composes c (s.afterCalls d calls) :=
  ⟨h, Nat.le_add_right _ _, d, hd, s.drawnCalls_afterCalls d calls⟩

end Scene.Composes

namespace Act

variable {α β : Type} {a : Answers} {s : Scene} {c : Canvas}

/-- Whether it ends with a fault or without one, the act draws parts. -/
def Composes (act : Act α) (c : Canvas) (a : Answers) (s : Scene) : Prop :=
  act.Ensures (fun _ t => s.Composes c t) (fun _ t => s.Composes c t) a s

/-! ### One rule for each kind of step -/

/-- An act that does nothing draws nothing. -/
theorem composes_pure (h : s.panel.Drawable c) (x : α) : (pure x : Act α).Composes c a s :=
  .refl h

/-- A look at the panel draws nothing. -/
@[simp] theorem composes_panel_bind (next : Panel → Act β) :
    (panel >>= next).Composes c a s ↔ (next s.panel).Composes c a s :=
  ensures_panel_bind next

/-- A change of the panel draws nothing by itself. -/
@[simp] theorem composes_change_bind (f : Panel → Panel) (next : Unit → Act β) :
    (change f >>= next).Composes c a s ↔
      (next ()).Composes c a { s with panel := f s.panel } :=
  ensures_change_bind f next

/-- Two acts that draw parts draw parts one after the other. -/
theorem Composes.bind {act : Act α} {next : α → Act β} (h : act.Composes c a s)
    (hnext : ∀ x t, t.panel.Drawable c → (next x).Composes c a t) :
    (act >>= next).Composes c a s := by
  rw [Composes, ensures_bind]
  apply Ensures.mono h
  · intro x t ht
    exact (hnext x t ht.1).mono (fun _ _ => ht.trans) fun _ _ => ht.trans
  · exact fun _ _ ht => ht

/-- A composed drawing that is cut short is composed, too. -/
theorem composes_draw {d : Drawing} (h : s.panel.Drawable c) (hd : c.Composed d) :
    (draw d).Composes c a s :=
  ensures_draw (.afterCalls h hd _) fun _ _ hshown _ => .afterCalls h (hd.cut hshown) _

/-- The picture of a screen is composed of parts. -/
theorem composes_goTo {screen : Screen}
    (h : ({ s.panel with screen := screen } : Panel).Drawable c) :
    (goTo screen).Composes c a s := by
  simp only [goTo, composes_change_bind, composes_panel_bind]
  exact composes_draw h (h.canvas ▸ Panel.composed_picture h.placed screen)

/-- A message draws its box, and goes on if that fails. -/
theorem composes_showMessage (h : s.panel.Drawable c) (text : String) :
    (showMessage text).Composes c a s := by
  have hwarned := (Panel.invariant_drawable c).withMessage text h
  unfold Panel.withMessage at hwarned
  unfold showMessage
  split at hwarned
  · next hblank =>
    rw [if_pos hblank]
    exact composes_pure h ()
  · next hblank =>
    rw [if_neg hblank]
    simp only [composes_change_bind, composes_panel_bind]
    apply ensures_drawIfPossible
    intro shown calls hshown
    refine .afterCalls hwarned (Display.Canvas.Composed.cut ?_ hshown) calls
    exact hwarned.canvas ▸
      Display.Canvas.composed_part (.messageBox text) (Part.fits_of_none rfl)

/-- The message for a declined command is a part, too. -/
theorem Composes.recovering {act : Act Unit} (h : act.Composes c a s) :
    (recovering act).Composes c a s := by
  apply Ensures.recovering h
  · exact fun _ _ ht => ht
  · exact fun r t ht =>
      (composes_showMessage ht.1 _).mono (fun _ _ => ht.trans) fun _ _ => ht.trans

/-- The handling of a key draws parts. -/
theorem composes_handle (h : s.panel.Drawable c) (symbol : Symbol) :
    (handle s.panel.screen symbol).Composes c a s := by
  have hkept : (handle s.panel.screen symbol).Leaves (Panel.Drawable c) a s :=
    leaves_handle (Panel.invariant_drawable c) h symbol
  have hdraws : (handle s.panel.screen symbol).Handles s.panel a s := handles_handle symbol
  unfold Leaves Ensures at hkept
  unfold Handles Ensures at hdraws
  unfold Composes Ensures
  cases hact : handle s.panel.screen symbol a s with
  | ok _ t =>
    simp only [hact] at hkept hdraws ⊢
    obtain ⟨-, d, hd, hevents, hcalls⟩ := hdraws
    exact ⟨hkept, hcalls, d, h.composed_draws hkept hd, hevents⟩
  | error f t =>
    simp only [hact] at hkept hdraws ⊢
    obtain ⟨-, -, d, shown, hd, hshown, hevents, hcalls⟩ := hdraws
    exact ⟨hkept, hcalls, shown, (h.composed_draws hkept hd).cut hshown, hevents⟩

/-! ### Following a report -/

section Report

variable {r : Status} (h : s.panel.Drawable c)
include h

/-- A demand of the printer draws the screen that it leads to. -/
theorem composes_force (d : Demand) : (force d).Composes c a s := by
  have hforced : (s.panel.forced d).Drawable c := (Panel.invariant_drawable c).forced d h
  simp only [force, composes_panel_bind, composes_change_bind]
  split
  · exact composes_goTo hforced
  · exact composes_pure (hforced.shows s.panel.abandonEdit.screen) ()

/-- Following the job draws parts. -/
theorem composes_followJob : (followJob r).Composes c a s := by
  have hI := Panel.invariant_drawable c
  let noted (job : Job) : Scene := { s with panel := { s.panel with lastJob := job } }
  have hnoted (job : Job) : (noted job).panel.Drawable c :=
    hI.notes job s.panel.lastStatus s.panel.lastMessage h
  have hbegin (job : Job) : (do
      change fun p => { p with print := .fresh, places := { p.places with print := .first } }
      force .printStarted : Act Unit).Composes c a (noted job) := by
    have hfresh := hI.tracks .fresh s.panel.probe (hnoted job)
    have hfirst := hI.moves hfresh (.print .first (.inl (by decide)))
    exact composes_force hfirst _
  have hend (job : Job) : (do
      change ({ · with print := .fresh })
      force .jobEnded : Act Unit).Composes c a (noted job) :=
    composes_force (hI.tracks .fresh s.panel.probe (hnoted job)) _
  simp only [followJob, composes_panel_bind, composes_change_bind]
  split
  · cases r.job with
    | printing =>
      dsimp only
      split
      · exact hbegin _
      · exact composes_pure (hnoted _) ()
    | paused => exact composes_pure (hnoted _) ()
    | standby | complete | cancelled => exact hend _
    | error => exact composes_showMessage (hnoted _) _
  · exact composes_pure (hnoted _) ()

/-- Following the probing draws parts. -/
theorem composes_followProbe : (followProbe r).Composes c a s := by
  have hfresh := (Panel.invariant_drawable c).tracks s.panel.print .fresh h
  have hforced (d : Demand) (entered : Bool) :
      (force d >>= fun _ => pure entered).Composes c a
        { s with panel := { s.panel with probe := .fresh } } :=
    (composes_force hfresh d).bind fun _ _ ht => composes_pure ht entered
  simp only [followProbe, composes_panel_bind]
  split
  · exact hforced _ _
  · exact hforced _ _
  · rw [composes_panel_bind, Panel.probePicture]
    apply (composes_draw h _).bind fun _ _ ht => composes_pure ht false
    rw [h.canvas]
    exact Display.Canvas.composed_part (.probePage _ _ _ false) (Part.fits_of_none rfl)
  · exact composes_pure h false

/-- Refreshing the print screen draws parts. -/
theorem composes_refreshPrint : (refreshPrint r).Composes c a s := by
  let kept (print : PrintSession) : Scene := { s with panel := { s.panel with print := print } }
  have hkept (print : PrintSession) : (kept print).panel.Drawable c :=
    (Panel.invariant_drawable c).tracks print s.panel.probe h
  have hpart (part : Part) (hpart : part.row? = none) (t : Scene) (ht : t.panel.Drawable c) :
      (panel >>= fun p => draw (part.drawing p.canvas)).Composes c a t := by
    rw [composes_panel_bind, ht.canvas]
    exact composes_draw ht (Display.Canvas.composed_part part (Part.fits_of_none hpart))
  simp only [refreshPrint, composes_panel_bind, composes_change_bind]
  split
  · exact hpart .printFinished rfl (kept _) (hkept _)
  · split
    · split
      · exact (hpart (.printButton 1 _ _) rfl (kept _) (hkept _)).bind fun _ =>
          hpart (.progress r.progress) rfl
      · exact hpart (.progress r.progress) rfl (kept _) (hkept _)
    · exact composes_pure (hkept _) ()

/-- Following the homing draws parts. -/
theorem composes_followHoming : (followHoming r).Composes c a s := by
  have hhomed : (s.panel.followingHoming r).Drawable c :=
    (Panel.invariant_drawable c).change (r := r) (by simp [Panel.changesFor]) h
  unfold Panel.followingHoming at hhomed
  simp only [followHoming, composes_panel_bind]
  cases hhoming : s.panel.homing with
  | none => exact composes_pure h ()
  | some request =>
    simp only [hhoming] at hhomed
    dsimp only
    split at hhomed
    · next hall =>
      simp only [hall, if_true, composes_change_bind]
      split at hhomed
      · next hscreen =>
        simp only [hscreen, if_true, composes_change_bind]
        exact composes_goTo hhomed
      · next hscreen =>
        simp only [hscreen, if_false]
        exact composes_pure hhomed ()
    · next hall =>
      simp only [hall]
      exact composes_pure h ()

/-- Refreshing the status area draws parts. -/
theorem composes_refreshStatus (previous : Option Status) :
    (refreshStatus r previous).Composes c a s := by
  simp only [refreshStatus, composes_panel_bind]
  split
  · rw [h.canvas]
    exact composes_draw h (Display.Canvas.composed_part (.statusArea r) (Part.fits_of_none rfl))
  · exact composes_pure h ()

/-- Following the message of a report draws its box at most. -/
theorem composes_followMessage : (followMessage r).Composes c a s := by
  simp only [followMessage, composes_panel_bind]
  split
  · rw [composes_change_bind]
    exact composes_showMessage
      ((Panel.invariant_drawable c).notes s.panel.lastJob s.panel.lastStatus r.message h) _
  · exact composes_pure h ()

/-- Following a report draws parts. -/
theorem composes_reconcile (previous : Option Status) :
    (reconcile r previous).Composes c a s := by
  rw [reconcile_eq]
  apply (composes_followJob h).bind
  intro _ t ht
  apply (composes_followProbe ht).bind
  intro entered u hu
  have hlast (v : Scene) (hv : v.panel.Drawable c) : (do
      followHoming r
      if !entered then refreshStatus r previous
      followMessage r : Act Unit).Composes c a v := by
    apply (composes_followHoming hv).bind
    intro _ w hw
    cases entered with
    | true => exact composes_followMessage hw
    | false =>
      exact (composes_refreshStatus hw previous).bind fun _ _ => composes_followMessage
  rw [composes_panel_bind]
  by_cases hscreen : u.panel.screen = .printProcess
  · rw [if_pos hscreen]
    exact (composes_refreshPrint hu).bind fun _ => hlast
  · rw [if_neg hscreen]
    exact hlast u hu

end Report

/-- An act that draws parts has drawn them when it ends. -/
theorem Composes.of_eq_ok {act : Act α} {x : α} {t : Scene} (h : act.Composes c a s)
    (hact : act a s = .ok x t) : s.Composes c t := by
  simpa only [Composes, Ensures, hact] using h

end Act

/-! ### Operations -/

/-- How long the user has been away, and whether the display is dimmed for it. -/
def Background.absence (b : Background) : Nat × Bool := (b.idleTicks, b.dimmed)

/-- The scene after the knob was read, and the display woken if there is a key. -/
def Scene.attended (s : Scene) (a : Answers) (decoded : Option Key × Knob) : Scene :=
  let q : Scene := { s with panel := { s.panel with knob := decoded.2 } }
  match decoded.1 with
  | none => q
  | some _ => Act.woken q (q.waking a)

namespace Act

variable {a : Answers} {s : Scene} {c : Canvas}

/-- Reading the knob wakes the display if there is a key, and draws parts for it. -/
theorem keyOfKnob_composes (h : s.panel.Drawable c) (decode : Knob → Option Key × Knob) :
    ∃ t, keyOfKnob decode a s = .ok () t ∧
      (s.attended a (decode s.panel.knob)).Composes c t ∧
      t.panel.absence = (s.attended a (decode s.panel.knob)).panel.absence := by
  obtain ⟨t, ht, hkept⟩ := keyOfKnob_ends (a := a) (s := s) decode
  refine ⟨t, ht, ?_⟩
  let q : Scene := { s with panel := { s.panel with knob := (decode s.panel.knob).2 } }
  have hq : q.panel.Drawable c :=
    (Panel.invariant_drawable c).attends s.panel.latch _ s.panel.idleTicks s.panel.dimmed h
      (.inr rfl)
  have habsence : t.panel.absence =
      (s.panel.background.attended (decode s.panel.knob)).absence :=
    congrArg Background.absence hkept
  rw [keyOfKnob_eq] at ht
  unfold Scene.attended
  unfold Background.attended at habsence
  cases hk : (decode s.panel.knob).1 with
  | none =>
    simp only [hk, keyIfAny] at ht habsence ⊢
    obtain rfl : q = t := by
      cases ht
      rfl
    exact ⟨.refl hq, habsence⟩
  | some k =>
    simp only [hk, keyIfAny] at ht habsence ⊢
    have hkey : key k a q = .ok () t := ht
    rw [key_eq_waking] at hkey
    have hwoken : (woken q (q.waking a)).panel.Drawable c :=
      (Panel.invariant_drawable c).attends .empty _ 0 false hq (.inl rfl)
    exact ⟨(composes_handle hwoken (q.panel.symbolOf k)).recovering.of_eq_ok hkey, habsence⟩

/-- After the look at the knob, a tick that reads a report draws parts for it. -/
theorem recovering_reconcile_composes (h : s.panel.Drawable c) (r : Status)
    (previous : Option Status) :
    ∃ t, recovering (reconcile r previous) a s = .ok () t ∧ s.Composes c t ∧
      t.panel.absence = s.panel.absence := by
  obtain ⟨t, ht⟩ := recovering_ends (a := a) (s := s) (reconcile r previous)
  refine ⟨t, ht, (composes_reconcile h previous).recovering.of_eq_ok ht, ?_⟩
  have habsence : (reconcile r previous).Leaves (·.absence = s.panel.absence) a s := by
    apply (makes_reconcile r previous).mono
    · intro _ u hu
      rw [hu.panel_eq]
      exact Panel.absence_after (List.Subset.refl _) _
    · rintro _ u ⟨-, made, hmade, hu⟩
      rw [hu.panel_eq]
      exact Panel.absence_after hmade.subset _
  exact (habsence.recovering fun {q} text hq => (q.absence_withMessage text).trans hq).of_eq_ok ht

end Act

namespace Panel

variable {p : Panel} {op : Operation} {a : Answers} {c : Canvas}

/-- The key that an operation delivers, and the knob after it. -/
def decoded (p : Panel) : Operation → Option Key × Knob
  | .key k => (some k, p.knob)
  | .rotate r now => (some (p.knob.rotate r now).1, (p.knob.rotate r now).2)
  | .sample x y now => p.knob.sample x y now
  | .button down now => p.knob.button down now
  | .poll now | .tick now => p.knob.poll now
  | .start | .message _ | .iconFinder => (none, p.knob)

/-- The key that an operation decodes is the one that it delivers. -/
theorem decoded_fst (p : Panel) (op : Operation) : (p.decoded op).1 = p.keyOf op := by
  cases op <;> rfl

/-- An operation wakes the display for a key, draws parts, and counts an idle tick for a report. -/
theorem perform_composes (h : p.Drawable c) (hop : op ≠ .start) :
    ∃ t, ((Scene.opening p).attended a (p.decoded op)).Composes c t ∧
      t.panel.absence = ((Scene.opening p).attended a (p.decoded op)).panel.absence ∧
      p.perform op a = if (p.reads op a).isSome then t.counted a else t := by
  have hknob (decode : Knob → Option Key × Knob) (hdecode : decode p.knob = p.decoded op)
      (hact : op.act a (.opening p) = Act.keyOfKnob decode a (.opening p))
      (hreads : p.reads op a = none) :
      ∃ t, ((Scene.opening p).attended a (p.decoded op)).Composes c t ∧
        t.panel.absence = ((Scene.opening p).attended a (p.decoded op)).panel.absence ∧
        p.perform op a = if (p.reads op a).isSome then t.counted a else t := by
    obtain ⟨t, ht, hcomposes, habsence⟩ :=
      Act.keyOfKnob_composes (a := a) (s := .opening p) h decode
    rw [hreads, ← hdecode]
    exact ⟨t, hcomposes, habsence, perform_eq (hact.trans ht)⟩
  cases op with
  | start => exact absurd rfl hop
  | key k => exact hknob (fun knob => (some k, knob)) rfl rfl rfl
  | rotate r now =>
    exact hknob (fun k => (some (k.rotate r now).1, (k.rotate r now).2)) rfl rfl rfl
  | sample x y now => exact hknob (·.sample x y now) rfl rfl rfl
  | button down now => exact hknob (·.button down now) rfl rfl rfl
  | poll now => exact hknob (·.poll now) rfl rfl rfl
  | tick now =>
    obtain ⟨t, ht, hcomposes, habsence⟩ :=
      Act.keyOfKnob_composes (a := a) (s := .opening p) h (·.poll now)
    have htick : Act.tick now a (.opening p) = Act.hear a t := Act.tick_of_polled ht
    simp only [reads, ht]
    cases hreport : a.status t.looks with
    | none =>
      exact ⟨{ t with looks := t.looks + 1 }, hcomposes, habsence,
        perform_eq (htick.trans (Act.hear_eq_of_none hreport))⟩
    | some r =>
      have hheard : (t.heard r).panel.Drawable c :=
        (invariant_drawable c).notes t.panel.lastJob (some r) t.panel.lastMessage hcomposes.1
      obtain ⟨u, hu, hucomposes, huabsence⟩ :=
        Act.recovering_reconcile_composes (a := a) hheard r t.panel.lastStatus
      have hhear : Act.hear a t = .ok () (u.counted a) := by
        rw [Act.hear_eq_of_some hreport, Act.bind_eq hu, Act.countIdleTick_counted]
      exact ⟨u, hcomposes.trans hucomposes, huabsence.trans habsence,
        perform_eq (htick.trans hhear)⟩
  | message text =>
    obtain ⟨t, ht, hdrawn⟩ := Act.showMessage_eq (a := a) (s := .opening p) text
    refine ⟨t, (Act.composes_showMessage h text).of_eq_ok ht, ?_, perform_eq ht⟩
    rw [hdrawn.panel_eq]
    exact p.absence_withMessage text
  | iconFinder =>
    let q : Panel := { p.abandonEdit with
      places := { p.abandonEdit.places with icon := .first } }
    have hI := invariant_drawable c
    have hq : ({ q with screen := .iconFinder } : Panel).Drawable c := hI.persists.browses h
    obtain ⟨t, ht⟩ := Act.recovering_ends (a := a) (s := .opening q) (Act.goTo .iconFinder)
    have habsence : (Act.goTo .iconFinder).Leaves (·.absence = p.absence) a (.opening q) :=
      (Act.leaves_goTo _).mpr p.absence_abandonEdit
    refine ⟨t, (Act.composes_goTo (s := .opening q) hq).recovering.of_eq_ok ht, ?_, perform_eq ht⟩
    exact (habsence.recovering fun {q} text hq => (q.absence_withMessage text).trans hq).of_eq_ok ht

/-- Switching the display on lights it and draws the main menu, unless it cannot be lit. -/
theorem perform_start_composes (h : p.Drawable c) (a : Answers) :
    ((Scene.opening p).afterCalls (a.lit 0 p.settings.screen.brightness) 1).Composes c
        (p.perform .start a) ∧
      (p.perform .start a).panel.absence = p.absence := by
  cases hanswer : a.display 0 with
  | none =>
    let lit : Scene := (Scene.opening p).afterCalls [.light p.settings.screen.brightness] 1
    obtain ⟨t, ht⟩ := Act.recovering_ends (a := a) (s := lit) (Act.goTo .mainMenu)
    have hperform : p.perform .start a = t := perform_eq ((start_lit hanswer).trans ht)
    have habsence : (Act.goTo .mainMenu).Leaves (·.absence = p.absence) a lit :=
      (Act.leaves_goTo _).mpr rfl
    rw [hperform, Answers.lit, if_pos hanswer]
    exact ⟨(Act.composes_goTo (s := lit) (h.shows .mainMenu)).recovering.of_eq_ok ht,
      (habsence.recovering fun {q} text hq => (q.absence_withMessage text).trans hq).of_eq_ok ht⟩
  | some f =>
    have hperform : p.perform .start a = (Scene.opening p).afterCalls [] 1 :=
      perform_eq (start_unlit hanswer)
    rw [hperform, Answers.lit, if_neg (by simp [hanswer])]
    exact ⟨.refl h, rfl⟩

end Panel

end PrinterPanel
