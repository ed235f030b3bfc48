import PrinterPanel.Proofs.PrintControls

/-!
# The print screen through a run

Every operation leaves the print screen with the controls that it would have if it were drawn anew,
except for a tick that hears of a new print while the print screen of the last one is up. The cursor
goes back to the first button then, and the screen is left as it is.
-/

namespace PrinterPanel

open Display (Drawing Alike replay)

namespace Act

variable {α β : Type} {a : Answers} {s : Scene} {shown : Drawing}

/-- Two acts paint the controls right if the second does so after the first has. -/
theorem Paints.bind {act : Act α} {next : α → Act β} (h : act.Paints shown a s)
    (hnext : ∀ x t, t.Faithful shown → (next x).Paints shown a t) :
    (act >>= next).Paints shown a s := by
  rw [Paints, ensures_bind]
  apply h.mono hnext
  intro f t ht
  exact ht

/-! ### Reports -/

section Reports

variable (h : ∀ n, a.display n = none)
include h

/-- A change of the printer draws the screen anew, unless that is up without an edit. -/
theorem paints_force (d : Demand)
    (hs : s.panel.edit.isSome = true ∨ s.panel.screen.after d ≠ s.panel.screen ∨ s.Faithful shown) :
    (force d).Paints shown a s := by
  simp only [force, paints_panel_bind, paints_change_bind]
  split
  · exact paints_goTo h _
  · next hstays =>
    obtain ⟨hsame, hclosed⟩ := not_or.mp hstays
    have hnone : s.panel.edit = none := by simpa using hclosed
    have hfree : s.panel.abandonEdit = s.panel := by simp [Panel.abandonEdit, hnone]
    rw [hfree] at hsame ⊢
    obtain hediting | hother | hfaithful := hs
    · simp [hnone] at hediting
    · exact absurd hother hsame
    · exact hfaithful

end Reports

/-- A message covers the print screen, unless it is blank. -/
theorem paints_showMessage (text : String)
    (hs : Text.allBlank text.toList = false ∨ s.Faithful shown) :
    (showMessage text).Paints shown a s := by
  cases hblank : Text.allBlank text.toList with
  | true =>
    have hfaithful : s.Faithful shown := hs.resolve_left (by simp [hblank])
    simpa [showMessage, hblank] using hfaithful
  | false =>
    obtain ⟨u, hu, hdrawn⟩ := showMessage_eq (a := a) (s := s) text
    have hcovered : u.Faithful shown :=
      faithful_of_redrawn (by rw [withMessage_screen hblank]; decide) hdrawn
    unfold Paints Ensures
    rw [hu]
    exact hcovered

end Act

/-- A new print begins while the print screen of the last one is up. -/
structure Panel.Restarts (p : Panel) (r : Status) : Prop where
  screen : p.screen = .printProcess
  closed : p.edit = none
  job : r.job = .printing
  fresh : p.lastJob ≠ .printing
  notPaused : p.lastJob ≠ .paused

namespace Act

variable {a : Answers} {s : Scene} {shown : Drawing}

section Reports

variable (h : ∀ n, a.display n = none)
include h

/-- Following the job paints the controls right unless a new print begins under the last one's
screen. -/
theorem paints_followJob {r : Status} (hs : s.Faithful shown) (hrestart : ¬ s.panel.Restarts r) :
    (followJob r).Paints shown a s := by
  have hend : (do
      change ({ · with print := .fresh })
      force .jobEnded : Act Unit).Paints shown a
        { s with panel := { s.panel with lastJob := r.job } } := by
    rw [paints_change_bind]
    apply paints_force h
    by_cases hmain : s.panel.screen = .mainMenu
    · exact .inr (.inr (Scene.faithful_of_ne (by simp [hmain])))
    · exact .inr (.inl (Ne.symm hmain))
  simp only [followJob, paints_panel_bind, paints_change_bind]
  split
  · next hnew =>
    cases hjob : r.job with
    | printing =>
      by_cases hpaused : s.panel.lastJob = .paused
      · simp only [ne_eq, hpaused, not_true_eq_false, if_false]
        exact hs
      · simp only [ne_eq, hpaused, not_false_eq_true, if_true, paints_change_bind]
        apply paints_force h
        by_cases hscreen : s.panel.screen = .printProcess
        · cases hedit : s.panel.edit with
          | none =>
            have hfresh : s.panel.lastJob ≠ .printing := by rwa [hjob, ne_comm] at hnew
            exact absurd ⟨hscreen, hedit, hjob, hfresh, hpaused⟩ hrestart
          | some e => exact .inl rfl
        · exact .inr (.inl (Ne.symm hscreen))
    | paused => exact hs
    | standby | complete | cancelled =>
      rw [hjob] at hend
      exact hend
    | error =>
      apply paints_showMessage
      split
      · exact .inl (by decide)
      · next hblank => exact .inl (eq_false_of_ne_true hblank)
  · exact hs

/-- Probing that begins or ends draws another screen. -/
theorem paints_followProbe {r : Status}
    (hs : r.probe.isSome = true ∨ s.Faithful shown) : (followProbe r).Paints shown a s := by
  have hforce (d : Demand) (entered : Bool)
      (hother : s.panel.screen.after d ≠ s.panel.screen) : (do
        change ({ · with probe := .fresh })
        force d
        return entered : Act Bool).Paints shown a s := by
    rw [paints_change_bind]
    apply Paints.bind
    · exact paints_force h d (.inr (.inl hother))
    · exact fun _ _ ht => (paints_pure entered).mpr ht
  simp only [followProbe, paints_panel_bind]
  cases hprobing : s.panel.screen == .manualProbe with
  | true =>
    have hscreen : s.panel.screen = .manualProbe := beq_iff_eq.mp hprobing
    cases r.probe.isSome with
    | true =>
      have hdraw : (draw (s.panel.probePicture false)).Paints shown a s := by
        rw [paints_draw h]
        intro hprint
        rw [hscreen] at hprint
        contradiction
      dsimp only
      rw [paints_panel_bind]
      exact hdraw.bind fun _ _ ht => (paints_pure false).mpr ht
    | false =>
      dsimp only
      exact hforce .probeEnded false (by rw [hscreen]; decide)
  | false =>
    have hscreen : s.panel.screen ≠ .manualProbe := by simpa using hprobing
    cases hprobe : r.probe.isSome with
    | true =>
      dsimp only
      exact hforce .probeStarted true (Ne.symm hscreen)
    | false => exact hs.resolve_left (by simp [hprobe])

/-- The print screen is kept up to date, or the notice of the finished print covers its controls. -/
theorem paints_refreshPrint {r : Status}
    (hs : r.progress.isFinished = true ∧ s.panel.print.finished = false ∨ s.Faithful shown) :
    (refreshPrint r).Paints shown a s := by
  simp only [refreshPrint, paints_panel_bind, paints_change_bind]
  split
  · rw [paints_change_bind, paints_panel_bind, paints_draw h]
    intro _
    exact Display.Canvas.alike_printFinished _
  · next hstays =>
    have hfaithful : s.Faithful shown := hs.resolve_left fun hnew => hstays (by simp [hnew])
    have hprogress (t : Scene) (ht : t.Faithful shown) :
        (panel >>= fun p => draw (p.canvas.progress r.progress)).Paints shown a t := by
      rw [paints_panel_bind, paints_draw h]
      intro hscreen
      exact (Display.alike_replay (Display.Canvas.avoids_progress r.progress) _).trans (ht hscreen)
    split
    · next hclosed =>
      have hopen : s.panel.print.completionShown = false := by simpa using hclosed
      split
      · rw [paints_change_bind, paints_panel_bind]
        apply Paints.bind _ fun _ t ht => hprogress t ht
        rw [paints_draw h]
        refine (Panel.showsControls_iff_of_open ?_).mpr fun hscreen => ?_
        · exact hopen
        have hbuttons := (Panel.showsControls_iff_of_open hopen).mp hfaithful hscreen
        exact Display.Canvas.alike_pause hbuttons r.isPaused
      · exact hprogress _ hfaithful
    · exact hfaithful

/-- Waiting for the axes to be homed paints the controls right. -/
theorem paints_followHoming {r : Status} (hs : s.Faithful shown) :
    (followHoming r).Paints shown a s := by
  simp only [followHoming, paints_panel_bind]
  cases s.panel.homing with
  | none => exact hs
  | some request =>
    by_cases hall : r.homed.all = true
    · by_cases hscreen : s.panel.screen = .homing
      · simp [hall, hscreen, paints_goTo h]
      · simp only [hall, if_true, paints_change_bind, hscreen, if_false]
        exact hs
    · simp only [hall]
      exact hs

/-- The status area is redrawn beside the controls. -/
theorem paints_refreshStatus {r : Status} {previous : Option Status} (hs : s.Faithful shown) :
    (refreshStatus r previous).Paints shown a s := by
  simp only [refreshStatus, paints_panel_bind]
  split
  · rw [paints_draw h]
    intro hscreen
    exact (Display.alike_replay (Display.Canvas.avoids_statusArea r) _).trans (hs hscreen)
  · exact hs

omit h in
/-- A message of the printer covers the print screen once, unless it is blank. -/
theorem paints_followMessage {r : Status}
    (hs : r.message ≠ s.panel.lastMessage ∧ Text.allBlank r.message.toList = false ∨
      s.Faithful shown) : (followMessage r).Paints shown a s := by
  simp only [followMessage, paints_panel_bind]
  split
  · rw [paints_change_bind]
    apply paints_showMessage
    obtain ⟨-, hblank⟩ | hfaithful := hs
    · exact .inl hblank
    · exact .inr hfaithful
  · next hsame =>
    exact hs.resolve_left fun hnew => hsame hnew.1

/-- What follows the look at the progress keeps the print screen up to date. -/
theorem paints_afterPrint {r : Status} {previous : Option Status} (probeEntered : Bool)
    (hs : s.Faithful shown) : (do
      followHoming r
      if !probeEntered then refreshStatus r previous
      followMessage r : Act Unit).Paints shown a s := by
  apply (paints_followHoming h hs).bind
  intro _ t ht
  cases probeEntered with
  | true => exact paints_followMessage (.inr ht)
  | false =>
    apply (paints_refreshStatus h ht).bind
    exact fun _ u hu => paints_followMessage (.inr hu)

end Reports

/-- What is done for a report after the look at the job. -/
def followRest (r : Status) (previous : Option Status) : Act Unit := do
  let probeEntered ← followProbe r
  if (← panel).screen = .printProcess then refreshPrint r
  followHoming r
  if !probeEntered then refreshStatus r previous
  followMessage r

/-- Following a report begins with the job. -/
theorem reconcile_eq (r : Status) (previous : Option Status) :
    reconcile r previous = followJob r >>= fun _ => followRest r previous := rfl

section Reports

variable (h : ∀ n, a.display n = none)
include h

/-- What is done behind the job paints the controls right, or leaves the print screen to probe the
bed. -/
theorem paints_followRest {r : Status} {previous : Option Status}
    (hs : r.probe.isSome = true ∨ s.Faithful shown) : (followRest r previous).Paints shown a s := by
  apply (paints_followProbe h hs).bind
  intro probeEntered t ht
  rw [paints_panel_bind]
  by_cases hscreen : t.panel.screen = .printProcess
  · rw [if_pos hscreen]
    exact (paints_refreshPrint h (.inr ht)).bind fun _ u hu => paints_afterPrint h probeEntered hu
  · rw [if_neg hscreen]
    exact paints_afterPrint h probeEntered ht

/-- Following a report paints the controls right unless a new print begins under the last one's
screen. -/
theorem paints_reconcile {r : Status} {previous : Option Status} (hs : s.Faithful shown)
    (hrestart : ¬ s.panel.Restarts r) : (reconcile r previous).Paints shown a s := by
  rw [reconcile_eq]
  apply (paints_followJob h hs hrestart).bind
  exact fun _ t ht => paints_followRest h (.inr ht)

end Reports

end Act

/-! ### A new print under the screen of the last one -/

/-- The panel has forgotten the last print, and its print screen still shows the controls for it. -/
structure Scene.Stale (s : Scene) (p : Panel) (shown : Drawing) : Prop where
  screen : s.panel.screen = .printProcess
  canvas : s.panel.canvas = p.canvas
  print : s.panel.print = .fresh
  cursor : s.panel.places.print = .first
  alike : Alike p.canvas.controlArea (replay shown (drawnCalls s.events)) p.printControls

/-- Controls of the last print are right for the new one if none of them is outdated. -/
theorem Scene.Stale.faithful_iff {s : Scene} {p : Panel} {shown : Drawing} (h : s.Stale p shown) :
    s.Faithful shown ↔
      ¬ p.canvas.Outdated p.places.print.position p.print.paused p.print.completionShown := by
  have hcontrols : s.panel.printControls = p.canvas.printButtons 0 false := by
    rw [Panel.printControls, h.canvas, h.print, h.cursor]
    rfl
  rw [← Display.Canvas.alike_start_iff, Scene.Faithful, Panel.ShowsControls, hcontrols, h.canvas]
  constructor
  · intro hfaithful
    exact h.alike.symm.trans (hfaithful h.screen)
  · intro hstart _
    exact h.alike.trans hstart

/-- Drawing elsewhere leaves the old controls. -/
theorem Scene.Stale.drawn {s : Scene} {p : Panel} {shown d : Drawing} (h : s.Stale p shown)
    (hd : ∀ c ∈ d, c.Avoids p.canvas.controlArea) (calls : Nat) :
    (s.afterCalls d calls).Stale p shown := by
  refine ⟨h.screen, h.canvas, h.print, h.cursor, ?_⟩
  rw [Scene.drawnCalls_afterCalls, Display.replay_append]
  exact (Display.alike_replay hd _).trans h.alike

namespace Act

variable {a : Answers} {s : Scene} {p : Panel} {shown : Drawing}

/-- The act leaves the controls of the last print as they are, and hears of no message. -/
def Stays {α : Type} (act : Act α) (p : Panel) (shown : Drawing) (a : Answers) (s : Scene) : Prop :=
  act.Ensures (fun _ t => t.Stale p shown ∧ t.panel.lastMessage = s.panel.lastMessage)
    (fun _ _ => False) a s

/-- A new print under the screen of the last one is not drawn, and the old controls stay. -/
theorem followJob_restarts {r : Status} (hrestart : s.panel.Restarts r) (hs : s.Faithful shown) :
    (followJob r).Stays s.panel shown a s := by
  have hnew : Job.printing ≠ s.panel.lastJob := hrestart.fresh.symm
  simp only [followJob, Stays, ensures_bind, ensures_panel, ensures_change, hrestart.job, ne_eq,
    hnew, not_false_eq_true, if_true, hrestart.notPaused, force, Panel.abandonEdit, hrestart.closed,
    hrestart.screen, Screen.after]
  rw [if_neg (by decide)]
  exact ⟨⟨rfl, rfl, rfl, rfl, hs hrestart.screen⟩, rfl⟩

/-- Without probing, the print screen stays up. -/
theorem followProbe_eq {r : Status} (hprobe : r.probe.isSome = false)
    (hscreen : s.panel.screen = .printProcess) : followProbe r a s = .ok false s := by
  apply eq_ok
  have hprobing : (s.panel.screen == Screen.manualProbe) = false := by rw [hscreen]; rfl
  simp [followProbe, hprobe, hprobing]

section Reports

variable (h : ∀ n, a.display n = none)
include h

/-- The progress of a print that runs is drawn beside the old controls. -/
theorem stays_refreshPrint {r : Status} (hs : s.Stale p shown) (hjob : r.job = .printing)
    (hrunning : r.progress.isFinished = false) : (refreshPrint r).Stays p shown a s := by
  have hresumed : r.isPaused = false := by simp [Status.isPaused, hjob]
  have hfresh : Scene.Stale { s with panel := { s.panel with print := .fresh } } p shown :=
    ⟨hs.screen, hs.canvas, rfl, hs.cursor, hs.alike⟩
  have havoids : ∀ c ∈ s.panel.canvas.progress r.progress, c.Avoids p.canvas.controlArea := by
    rw [hs.canvas]
    exact Display.Canvas.avoids_progress r.progress
  simp only [refreshPrint, Stays, ensures_bind, ensures_panel, ensures_change, hs.print, hrunning,
    hresumed, PrintSession.fresh]
  rw [if_neg (by decide), if_pos (by decide), if_neg (by decide), ensures_bind, ensures_panel,
    ensures_draw_iff h]
  exact ⟨hfresh.drawn havoids _, rfl⟩

omit h in
/-- Homing that is not waited for leaves the old controls. -/
theorem stays_followHoming {r : Status} (hs : s.Stale p shown) :
    (followHoming r).Stays p shown a s := by
  have hother : s.panel.screen ≠ .homing := by rw [hs.screen]; decide
  simp only [followHoming, Stays, ensures_bind, ensures_panel]
  cases s.panel.homing with
  | none => exact ⟨hs, rfl⟩
  | some request =>
    by_cases hall : r.homed.all = true
    · simp only [hall, if_true, ensures_bind, ensures_change, hother, if_false]
      exact ⟨⟨hs.screen, hs.canvas, hs.print, hs.cursor, hs.alike⟩, rfl⟩
    · simp only [hall]
      exact ⟨hs, rfl⟩

/-- The status area is redrawn beside the old controls. -/
theorem stays_refreshStatus {r : Status} {previous : Option Status} (hs : s.Stale p shown) :
    (refreshStatus r previous).Stays p shown a s := by
  simp only [refreshStatus, Stays, ensures_bind, ensures_panel]
  split
  · rw [ensures_draw_iff h, hs.canvas]
    exact ⟨hs.drawn (Display.Canvas.avoids_statusArea r) _, rfl⟩
  · exact ⟨hs, rfl⟩

end Reports

end Act

/-- A new print begins under the print screen of the last one. Nothing in the report brings up
another picture, and a control that is visible is outdated. -/
structure Panel.Overtaken (p : Panel) (r : Status) : Prop where
  restarts : p.Restarts r
  probe : r.probe.isSome = false
  running : r.progress.isFinished = false
  silent : r.message = p.lastMessage ∨ Text.allBlank r.message.toList = true
  outdated : p.canvas.Outdated p.places.print.position p.print.paused p.print.completionShown

namespace Act

variable {a : Answers} {s : Scene} {p : Panel} {shown : Drawing}

/-- The act ends with the right controls on the print screen, except for an overtaken panel. -/
def Settles {α : Type} (act : Act α) (p : Panel) (r : Status) (shown : Drawing) (a : Answers)
    (s : Scene) : Prop :=
  act.Ensures (fun _ t => t.Faithful shown ↔ ¬ p.Overtaken r)
    (fun f _ => ∃ refusal, f = .refused refusal) a s

/-- An act that paints the controls right settles a panel that is not overtaken. -/
theorem Paints.settles {α : Type} {act : Act α} {r : Status} (h : act.Paints shown a s)
    (hr : ¬ p.Overtaken r) : act.Settles p r shown a s :=
  h.mono (fun _ _ ht => iff_of_true ht hr) fun _ _ hf => hf

/-- Where the old controls stay, it is for the rest to settle. -/
theorem Stays.bind {α β : Type} {act : Act α} {next : α → Act β} {r : Status}
    (h : act.Stays p shown a s)
    (hnext : ∀ x t, t.Stale p shown → t.panel.lastMessage = s.panel.lastMessage →
      (next x).Settles p r shown a t) : (act >>= next).Settles p r shown a s := by
  rw [Settles, ensures_bind]
  apply h.mono
  · intro x t ht
    exact hnext x t ht.1 ht.2
  · exact fun _ _ hf => hf.elim

/-- A message of the printer is put over the old controls, unless it is known or blank. -/
theorem settles_followMessage {r : Status} (hs : s.Stale p shown)
    (hmessage : s.panel.lastMessage = p.lastMessage) (hrestart : p.Restarts r)
    (hprobe : r.probe.isSome = false) (hrunning : r.progress.isFinished = false) :
    (followMessage r).Settles p r shown a s := by
  by_cases hsilent : r.message = p.lastMessage ∨ Text.allBlank r.message.toList = true
  · have hend (t : Scene) (ht : t.Stale p shown) : t.Faithful shown ↔ ¬ p.Overtaken r := by
      rw [ht.faithful_iff]
      exact not_congr ⟨fun houtdated => ⟨hrestart, hprobe, hrunning, hsilent, houtdated⟩,
        fun ho => ho.outdated⟩
    simp only [followMessage, Settles, ensures_bind, ensures_panel]
    split
    · next hnew =>
      have hblank : Text.allBlank r.message.toList = true :=
        hsilent.resolve_left (hmessage ▸ hnew)
      simp only [showMessage, hblank, if_true, ensures_bind, ensures_change]
      exact hend _ ⟨hs.screen, hs.canvas, hs.print, hs.cursor, hs.alike⟩
    · exact hend s hs
  · obtain ⟨hnew, hblank⟩ := not_or.mp hsilent
    have hpaints : (followMessage r).Paints shown a s :=
      paints_followMessage (.inl ⟨hmessage.symm ▸ hnew, eq_false_of_ne_true hblank⟩)
    exact hpaints.settles fun ho => hsilent ho.silent

section Reports

variable (h : ∀ n, a.display n = none)
include h

/-- What is done behind the job settles a panel that a new print has begun on. -/
theorem settles_followRest {r : Status} {previous : Option Status} (hs : s.Stale p shown)
    (hmessage : s.panel.lastMessage = p.lastMessage) (hrestart : p.Restarts r) :
    (followRest r previous).Settles p r shown a s := by
  cases hprobe : r.probe.isSome with
  | true =>
    apply (paints_followRest h (.inl hprobe)).settles
    intro ho
    rw [ho.probe] at hprobe
    contradiction
  | false =>
    have hrest : (do
        refreshPrint r
        followHoming r
        refreshStatus r previous
        followMessage r : Act Unit).Settles p r shown a s := by
      cases hrunning : r.progress.isFinished with
      | true =>
        have hcovers : (refreshPrint r).Paints shown a s :=
          paints_refreshPrint h (.inl ⟨hrunning, by rw [hs.print]; rfl⟩)
        apply (hcovers.bind fun _ t ht => paints_afterPrint h false ht).settles
        intro ho
        rw [ho.running] at hrunning
        contradiction
      | false =>
        apply (stays_refreshPrint h hs hrestart.job hrunning).bind
        intro _ t ht htmessage
        apply (stays_followHoming ht).bind
        intro _ u hu humessage
        apply (stays_refreshStatus h hu).bind
        intro _ v hv hvmessage
        have hmessages : v.panel.lastMessage = p.lastMessage := by
          rw [hvmessage, humessage, htmessage, hmessage]
        exact settles_followMessage hv hmessages hrestart hprobe hrunning
    have hprobed : followRest r previous a s = (do
        refreshPrint r
        followHoming r
        refreshStatus r previous
        followMessage r : Act Unit) a s := by
      have hpanel : panel a s = .ok s.panel s := rfl
      rw [followRest, bind_eq (followProbe_eq hprobe hs.screen), bind_eq hpanel, if_pos hs.screen]
      rfl
    unfold Settles Ensures at hrest ⊢
    rw [hprobed]
    exact hrest

/-- The controls of the print screen are right after a report, unless the panel is overtaken. -/
theorem settles_reconcile {r : Status} {previous : Option Status} (hs : s.Faithful shown) :
    (reconcile r previous).Settles s.panel r shown a s := by
  by_cases hrestart : s.panel.Restarts r
  · rw [reconcile_eq]
    apply (followJob_restarts hrestart hs).bind
    exact fun _ t ht hmessage => settles_followRest h ht hmessage hrestart
  · exact (paints_reconcile h hs hrestart).settles fun ho => hrestart ho.restarts

/-- Without display calls that fail, a report is followed to its end. -/
theorem reconcile_faithful (r : Status) (previous : Option Status) (hs : s.Faithful shown) :
    ∃ t, recovering (reconcile r previous) a s = .ok () t ∧
      (t.Faithful shown ↔ ¬ s.panel.Overtaken r) := by
  obtain ⟨t, ht, -⟩ | ⟨f, -, -, -, ⟨n, hfailed⟩, -⟩ := reconcile_cases (a := a) (s := s) r previous
  · have hsettles : (reconcile r previous).Settles s.panel r shown a s := settles_reconcile h hs
    simp only [Settles, Ensures, ht] at hsettles
    exact ⟨t, by rw [recovering_eq, ht], hsettles⟩
  · rw [h n] at hfailed
    contradiction

end Reports

/-- Dimming the display leaves no marks. -/
theorem countIdleTick_faithful (shown : Drawing) :
    ∃ t, countIdleTick a s = .ok () t ∧ (t.Faithful shown ↔ s.Faithful shown) := by
  refine ⟨s.counted a, countIdleTick_counted, ?_⟩
  rw [Scene.Faithful, Scene.counted, Scene.drawnCalls_afterCalls, Display.replay_append,
    replay_lights (s.dimming_subset a), Panel.idled_eq]
  exact Iff.rfl

end Act

/-! ### Runs -/

namespace Panel

variable {p : Panel} {op : Operation} {a : Answers} {shown : Drawing}

/-- A tick hears of a new print while the print screen of the last one is up. -/
def IsOvertaken (p : Panel) (op : Operation) (a : Answers) : Prop :=
  ∃ now s r, op = .tick now ∧ Act.keyOfKnob (·.poll now) a (.opening p) = .ok () s ∧
    a.status s.looks = some r ∧ (s.heard r).panel.Overtaken r

/-- The controls of the print screen are right after an operation, unless it is a tick by which the
panel is overtaken. -/
theorem perform_showsControls_iff (h : ∀ n, a.display n = none) (hp : p.ShowsControls shown)
    (hplaced : p.Placed) (hedits : p.EditsInMenus) (op : Operation) :
    (p.perform op a).Faithful shown ↔ ¬ p.IsOvertaken op a := by
  have hopening : (Scene.opening p).Faithful shown := hp
  have hstays {t : Scene} (hop : ∀ now, op ≠ .tick now)
      (hact : op.act a (.opening p) = .ok () t ∧ t.Faithful shown) :
      (p.perform op a).Faithful shown ↔ ¬ p.IsOvertaken op a := by
    rw [perform_eq hact.1]
    refine iff_of_true hact.2 ?_
    rintro ⟨now, -, -, htick, -⟩
    exact hop now htick
  have hknob (decode : Knob → Option Key × Knob) :
      ∃ t, Act.keyOfKnob decode a (.opening p) = .ok () t ∧ t.Faithful shown :=
    Act.keyOfKnob_faithful h decode hopening hplaced.print (hedits.returnTo_ne (by decide))
  cases op with
  | start =>
    have hlit : (Act.draw [.light p.settings.screen.brightness]).Paints shown a (.opening p) := by
      rw [Act.paints_draw h, Act.replay_lights (List.Subset.refl _)]
      exact hp
    have hmenu : (Act.draw [.light p.settings.screen.brightness] >>= fun _ =>
        Act.goTo .mainMenu).Paints shown a (.opening p) :=
      hlit.bind fun _ _ _ => Act.paints_goTo h .mainMenu
    obtain ⟨t, ht⟩ := hmenu.recovering
    exact hstays (by simp) ht
  | key k =>
    obtain ⟨t, ht⟩ :=
      Act.key_faithful (s := .opening p) h k hopening hplaced.print (hedits.returnTo_ne (by decide))
    exact hstays (by simp) ht
  | rotate r now =>
    obtain ⟨t, ht⟩ := hknob fun k => (some (k.rotate r now).1, (k.rotate r now).2)
    exact hstays (by simp) ht
  | sample x y now =>
    obtain ⟨t, ht⟩ := hknob (·.sample x y now)
    exact hstays (by simp) ht
  | button down now =>
    obtain ⟨t, ht⟩ := hknob (·.button down now)
    exact hstays (by simp) ht
  | poll now =>
    obtain ⟨t, ht⟩ := hknob (·.poll now)
    exact hstays (by simp) ht
  | tick now =>
    obtain ⟨s, hs, hfaithful⟩ := hknob (·.poll now)
    have htick : Act.tick now a (.opening p) = Act.hear a s := by
      rw [Act.tick_eq, Act.bind_eq hs]
    cases hstatus : a.status s.looks with
    | none =>
      have hperform : p.perform (.tick now) a = { s with looks := s.looks + 1 } :=
        perform_eq (htick.trans (Act.hear_eq_of_none hstatus))
      rw [hperform]
      refine iff_of_true hfaithful ?_
      rintro ⟨_, s', r, ⟨⟩, hs', hstatus', -⟩
      cases hs.symm.trans hs'
      rw [hstatus] at hstatus'
      contradiction
    | some r =>
      have hheard : (s.heard r).Faithful shown := hfaithful
      obtain ⟨t, ht, htfaithful⟩ :=
        Act.reconcile_faithful h r s.panel.lastStatus hheard
      obtain ⟨u, hu, hufaithful⟩ := Act.countIdleTick_faithful (a := a) (s := t) shown
      have hhear : Act.hear a s = .ok () u := by
        rw [Act.hear_eq_of_some hstatus, Act.bind_eq ht, hu]
      have hperform : p.perform (.tick now) a = u := perform_eq (htick.trans hhear)
      rw [hperform, hufaithful, htfaithful]
      apply not_congr
      constructor
      · intro hovertaken
        exact ⟨now, s, r, rfl, hs, hstatus, hovertaken⟩
      · rintro ⟨_, s', r', ⟨⟩, hs', hstatus', hovertaken⟩
        cases hs.symm.trans hs'
        cases hstatus.symm.trans hstatus'
        exact hovertaken
  | message text =>
    obtain ⟨t, ht, -⟩ := Act.showMessage_eq (a := a) (s := .opening p) text
    have hpaints : (Act.showMessage text).Paints shown a (.opening p) :=
      Act.paints_showMessage text (.inr hopening)
    simp only [Act.Paints, Act.Ensures, ht] at hpaints
    exact hstays (by simp) ⟨ht, hpaints⟩
  | iconFinder =>
    let q : Panel := { p.abandonEdit with
      places := { p.abandonEdit.places with icon := .first } }
    have hpaints : (Act.goTo .iconFinder).Paints shown a (.opening q) := Act.paints_goTo h _
    obtain ⟨t, ht⟩ := hpaints.recovering
    exact hstays (by simp) ht

/-- No tick of a run overtakes the panel. -/
def Undisturbed (p : Panel) : List (Operation × Answers) → Prop
  | [] => True
  | (op, a) :: rest => ¬ p.IsOvertaken op a ∧ (p.perform op a).panel.Undisturbed rest

/-- The controls are right all along a run exactly if no tick overtakes the panel. -/
theorem runs_showControls_iff {ops : List (Operation × Answers)}
    (hops : ∀ x ∈ ops, ∀ n, x.2.display n = none) (hp : p.ShowsControls shown) (hplaced : p.Placed)
    (hedits : p.EditsInMenus) :
    (∀ n, (p.run (ops.take n)).1.ShowsControls
      (replay shown (drawnCalls (p.run (ops.take n)).2))) ↔ p.Undisturbed ops := by
  induction ops generalizing p shown with
  | nil => exact iff_of_true (fun _ => by simpa [run] using hp) trivial
  | cons x rest ih =>
    obtain ⟨op, a⟩ := x
    let s := p.perform op a
    have hstep := perform_showsControls_iff (hops _ List.mem_cons_self) hp hplaced hedits op
    have hrest (hs : s.Faithful shown) :
        (∀ n, (s.panel.run (rest.take n)).1.ShowsControls
          (replay (replay shown (drawnCalls s.events))
            (drawnCalls (s.panel.run (rest.take n)).2))) ↔ s.panel.Undisturbed rest :=
      ih (fun y hy => hops y (List.mem_cons_of_mem _ hy)) hs
        (invariant_placed.perform (fun _ => hplaced.shows .mainMenu) hplaced)
        (invariant_editsInMenus.perform (fun _ => hedits) hedits)
    have hrun (n : Nat) : replay shown (drawnCalls (p.run (((op, a) :: rest).take (n + 1))).2) =
        replay (replay shown (drawnCalls s.events)) (drawnCalls (s.panel.run (rest.take n)).2) := by
      simp [run, s]
    constructor
    · intro h
      have hfirst : s.Faithful shown := by
        have hone := h 1
        rw [hrun] at hone
        simpa [run, s, Scene.Faithful] using hone
      refine ⟨hstep.mp hfirst, (hrest hfirst).mp fun n => ?_⟩
      have hnext := h (n + 1)
      rw [hrun] at hnext
      exact hnext
    · rintro ⟨hfirst, hlater⟩ n
      cases n with
      | zero => simpa [run] using hp
      | succ n =>
        rw [hrun]
        exact (hrest (hstep.mpr hfirst)).mpr hlater n

/-- On a display that never fails, whenever the print screen is up after an operation, it shows the
controls for the cursor and the print as if it were drawn anew, exactly if no tick hears of a new
print while the print screen of the last one is up. -/
theorem run_printScreen_iff (s : Settings) (width height : Nat) (ops : List (Operation × Answers))
    (hops : ∀ x ∈ ops, ∀ n, x.2.display n = none) :
    let p := Panel.ofSettings s width height
    (∀ n, let q := (p.run (ops.take n)).1
      let marks := replay [] (drawnCalls (p.run (ops.take n)).2)
      q.screen = .printProcess →
        Alike q.canvas.controlArea marks q.printControls ∧
        Alike q.canvas.controlArea marks (replay [] (q.picture .printProcess))) ↔
      p.Undisturbed ops := by
  intro p
  have hmain : p.ShowsControls [] :=
    Scene.faithful_of_ne (s := .opening p) (by simp [p, ofSettings, Scene.opening])
  have hclosed : p.EditsInMenus := by simp [EditsInMenus, p, ofSettings]
  rw [← runs_showControls_iff hops hmain (placed_ofSettings s width height) hclosed]
  constructor
  · intro h n hscreen
    exact (h n hscreen).1
  · intro h n q marks hscreen
    exact ⟨h n hscreen, (h n hscreen).trans (q.alike_picture []).symm⟩

/-- After a print was started and the cursor turned to the second button, that button is selected on
the screen. -/
theorem printScreen_turned :
    let p := Panel.ofSettings .standard 240 320
    let lists : Answers := { Answers.smooth with files := some ["cube.gcode"] }
    let ops := [(Operation.start, lists), (.key .click, lists), (.key .down, lists),
      (.key .click, lists), (.key .down, lists)]
    let q := (p.run ops).1
    (∀ x ∈ ops, ∀ n, x.2.display n = none) ∧ q.screen = .printProcess ∧
      q.places.print.position = 1 ∧
      Alike q.canvas.controlArea (replay [] (drawnCalls (p.run ops).2)) q.printControls := by
  intro p lists ops q
  have hops : ∀ x ∈ ops, ∀ n, x.2.display n = none := by simp [ops, lists, Answers.smooth]
  have hticks : p.Undisturbed ops := by
    simp [ops, Undisturbed, IsOvertaken]
  have hscreen : q.screen = .printProcess := by decide +kernel
  have hcursor : q.places.print.position = 1 := by decide +kernel
  have hall : ops.take 5 = ops := rfl
  have hshown := (run_printScreen_iff .standard 240 320 ops hops).mpr hticks 5
  rw [hall] at hshown
  -- The run is not to be computed once more.
  clear_value ops
  exact ⟨hops, hscreen, hcursor, (hshown hscreen).1⟩

/-- When the job is reported after the cursor was turned, the cursor is on the first button again,
and the screen still shows the second one selected. -/
theorem printScreen_overtaken :
    let p := Panel.ofSettings .standard 240 320
    let lists : Answers := { Answers.smooth with files := some ["cube.gcode"] }
    let prints : Answers :=
      { Answers.smooth with status := fun _ => some { Status.atRest with job := .printing } }
    let ops := [(Operation.start, lists), (.key .click, lists), (.key .down, lists),
      (.key .click, lists), (.key .down, lists), (.tick 0, prints)]
    let q := (p.run ops).1
    let marks := replay [] (drawnCalls (p.run ops).2)
    (∀ x ∈ ops, ∀ n, x.2.display n = none) ∧ q.screen = .printProcess ∧
      q.places.print.position = 0 ∧
      ∃ m ∈ q.printControls, m.LiesIn q.canvas.controlArea ∧ m ∉ marks := by
  intro p lists prints ops q marks
  have hops : ∀ x ∈ ops, ∀ n, x.2.display n = none := by
    simp [ops, lists, prints, Answers.smooth]
  let tune := Display.pictogram Display.Icon.tuneSelected 12 191
  have hscreen : q.screen = .printProcess := by decide +kernel
  have hcursor : q.places.print.position = 0 := by decide +kernel
  have hcontrol : tune ∈ q.printControls := by decide +kernel
  have hvisible : tune.LiesIn q.canvas.controlArea := by decide +kernel
  have hmissing : tune ∉ marks := by decide +kernel
  exact ⟨hops, hscreen, hcursor, tune, hcontrol, hvisible, hmissing⟩

end Panel

end PrinterPanel
