import PrinterPanel.Proofs.DrawsLast

/-!
# Steps that are passed over

A fault ends the step that made it, and the operation goes on from there. A step that draws last
ends as with a display that never fails, and then it is steady. An edit that is accepted shows its
settled value first, and parts from the step on a display that never fails if that call is the one
that fails.
-/

namespace PrinterPanel

open Display (Drawing)

/-- Whether doing what an edit is for makes a difference. -/
def EditEffect.Matters (s : Settings) : EditEffect → Prop
  | .command _ => True
  | .preset m field value => s.presets.update m (·.store field value) ≠ s.presets

namespace Panel

/-- The panel after an edit was left, before its effect. -/
def leaving (p : Panel) (e : Edit) : Panel :=
  { p with edit := none, screen := e.returnTo, rateLimited := true }

/-- The panel after an idle tick was counted. -/
def idled (p : Panel) : Panel :=
  let q := { p with idleTicks := min (p.idleTicks + 1) Bounds.counterLimit }
  let timeout := p.settings.screen.dimTicks
  if !q.dimmed && timeout ≠ 0 && timeout ≤ q.idleTicks then { q with dimmed := true } else q

/-- Counting an idle tick changes nothing that a report brings up. -/
theorem idled_eq (p : Panel) :
    p.idled = { p with idleTicks := p.idled.idleTicks, dimmed := p.idled.dimmed } := by
  simp only [idled]
  split <;> rfl

/-- How long the user has been away, and whether the display is dimmed for it. -/
def absence (p : Panel) : Nat × Bool := (p.idleTicks, p.dimmed)

/-- Counting an idle tick does not make different panels alike. -/
theorem idled_inj {p q : Panel} (habsence : p.absence = q.absence) (h : p.idled = q.idled) :
    p = q := by
  have hrestore (r : Panel) :
      ({ r.idled with idleTicks := r.idleTicks, dimmed := r.dimmed } : Panel) = r := by
    rw [idled_eq]
  obtain ⟨hticks, hdimmed⟩ := Prod.mk.inj habsence
  rw [← hrestore p, ← hrestore q, h, hticks, hdimmed]

/-- An edit that is abandoned does not bring the user back. -/
theorem absence_abandonEdit (p : Panel) : p.abandonEdit.absence = p.absence := by
  unfold abandonEdit
  split <;> rfl

/-- A demand of the printer does not bring the user back. -/
theorem absence_forced (p : Panel) (d : Demand) : (p.forced d).absence = p.absence :=
  p.absence_abandonEdit

/-- A message does not bring the user back. -/
theorem absence_withMessage (p : Panel) (text : String) :
    (p.withMessage text).absence = p.absence := by
  unfold withMessage
  split
  · rfl
  · exact p.absence_abandonEdit

/-- A change for a report has nothing to do with the user. -/
theorem absence_change {r : Status} {change : Panel → Panel} (h : change ∈ changesFor r)
    (p : Panel) : (change p).absence = p.absence := by
  simp only [changesFor, List.mem_cons, List.not_mem_nil, or_false] at h
  obtain rfl | rfl | rfl | rfl | rfl := h
  · unfold followingJob
    repeat' split
    all_goals first
      | rfl
      | exact absence_forced _ _
      | exact absence_withMessage _ _
  · unfold followingProbe
    split
    · rfl
    · exact absence_forced _ _
  · unfold followingPrint
    split <;> rfl
  · unfold followingHoming
    repeat' split
    all_goals rfl
  · unfold followingMessage
    split
    · rfl
    · exact absence_withMessage _ _

/-- No change for a report brings the user back. -/
theorem absence_after {r : Status} {made : List (Panel → Panel)} (h : made ⊆ changesFor r)
    (p : Panel) : (p.after made).absence = p.absence := by
  induction made generalizing p with
  | nil => rfl
  | cons change rest ih =>
    rw [after_cons, ih (List.subset_of_cons_subset h), absence_change (h List.mem_cons_self)]

end Panel

/-- What counting an idle tick shows: a display that becomes dimmed is dimmed by one call. -/
def Scene.dimming (s : Scene) (a : Answers) : Drawing :=
  if s.panel.idled.dimmed = s.panel.dimmed then []
  else a.lit s.displayCalls s.panel.settings.screen.dimBrightness

/-- An idle tick shows the dimmed level or nothing. -/
theorem Scene.dimming_subset (s : Scene) (a : Answers) :
    s.dimming a ⊆ [.light s.panel.settings.screen.dimBrightness] := by
  unfold dimming
  split
  · exact List.nil_subset _
  · exact a.lit_subset _ _

/-- The scene after an idle tick was counted. -/
def Scene.counted (s : Scene) (a : Answers) : Scene :=
  ({ s with panel := s.panel.idled }).afterCalls (s.dimming a)
    (if s.panel.idled.dimmed = s.panel.dimmed then 0 else 1)

namespace Scene.Agrees

variable {s t s' t' : Scene}

/-- Scenes that agree still do after a report was noted. -/
theorem heard (h : s.Agrees t) (r : Status) : (s.heard r).Agrees (t.heard r) :=
  ⟨by simp only [Scene.heard, h.panel], h.sent, h.commands, by simp only [Scene.heard, h.looks]⟩

/-- The same change of both panels. -/
theorem change (h : s.Agrees t) (f : Panel → Panel) :
    Scene.Agrees { s with panel := f s.panel } { t with panel := f t.panel } :=
  ⟨congrArg f h.panel, h.sent, h.commands, h.looks⟩

/-- The same change of both panels, and whatever is drawn after it. -/
theorem redrawn (h : s.Agrees t) (f : Panel → Panel)
    (hs : Scene.Redrawn { s with panel := f s.panel } s')
    (ht : Scene.Redrawn { t with panel := f t.panel } t') : s'.Agrees t' :=
  (hs.agrees.symm.trans (h.change f)).trans ht.agrees

end Scene.Agrees

namespace Act

variable {act : Act Unit} {a : Answers} {s t : Scene} {events : List Event} {calls : Nat}

/-! ### Accepting an edit -/

/-- The effect of an edit draws nothing. -/
@[simp] theorem drawsLast_takeEffect (effect : EditEffect) :
    (takeEffect effect).DrawsLast a s events calls ↔
      sentCommands s.events = sentCommands events := by
  cases effect <;> simp [takeEffect]

/-- The number of a row is drawn by one call. -/
private theorem figure_eq (c : Display.Canvas) (row : Nat) (f : Menu.Figure) (highlighted : Bool) :
    ∃ call, c.figure row f highlighted = [call] := by
  by_cases hdecimals : f.decimals = 0 <;> simp [Display.Canvas.figure, hdecimals]

/-- Accepting an edit leaves it, draws its value by one call, and then does what it is for. -/
private theorem acceptEdit_eq (e : Edit) :
    ∃ c, acceptEdit e a s =
      (draw [c] >>= fun _ => takeEffect e.effect) a { s with panel := s.panel.leaving e } := by
  obtain ⟨c, hc⟩ := figure_eq s.panel.canvas e.row ⟨e.field.decimals, e.value⟩ false
  refine ⟨c, ?_⟩
  rw [← hc]
  rfl

/-- Once the settled value is shown, the edit takes effect. -/
theorem acceptEdit_shown (e : Edit) (h : a.display s.displayCalls = none) :
    ∃ c, acceptEdit e a s =
      takeEffect e.effect a (({ s with panel := s.panel.leaving e }).afterCalls [c] 1) := by
  obtain ⟨c, hc⟩ := acceptEdit_eq (a := a) (s := s) e
  have hdraw : draw [c] a { s with panel := s.panel.leaving e } =
      .ok () (({ s with panel := s.panel.leaving e }).afterCalls [c] 1) := by
    apply eq_ok
    simp [draw, h]
  exact ⟨c, hc.trans (bind_eq hdraw)⟩

/-- If the settled value cannot be shown, the edit is left without its effect. -/
theorem acceptEdit_failed (e : Edit) {f : Display.Failure} (h : a.display s.displayCalls = some f) :
    acceptEdit e a s =
      .error (.display f) (({ s with panel := s.panel.leaving e }).afterCalls [] 1) := by
  obtain ⟨c, hc⟩ := acceptEdit_eq (a := a) (s := s) e
  have hdraw : draw [c] a { s with panel := s.panel.leaving e } =
      .error (.display f) (({ s with panel := s.panel.leaving e }).afterCalls [] 1) := by
    apply eq_error
    simp [draw, h]
  exact hc.trans (bind_eq_error hdraw)

/-- An accepted edit loses nothing if its settled value can be shown, or if it had no effect. -/
theorem drawsLast_acceptEdit {e : Edit}
    (hkept : e.effect.Matters s.panel.settings → a.display s.displayCalls = none)
    (h : sentCommands s.events = sentCommands events) :
    (acceptEdit e).DrawsLast a s events calls := by
  unfold DrawsLast
  obtain ⟨c', hclear⟩ :=
    acceptEdit_shown (a := a.clear) (s := s.shownAs events calls) e rfl
  rw [hclear]
  cases hdisplay : a.display s.displayCalls with
  | none =>
    obtain ⟨c, hshown⟩ := acceptEdit_shown e hdisplay
    have hsent : sentCommands (s.events ++ [.drawn c]) = sentCommands (events ++ [.drawn c']) := by
      simpa [sentCommands] using h
    have hnext : (takeEffect e.effect).DrawsLast a
        (({ s with panel := s.panel.leaving e }).afterCalls [c] 1) (events ++ [.drawn c'])
        (calls + 1) := (drawsLast_takeEffect e.effect).mpr hsent
    rw [hshown]
    exact hnext
  | some f =>
    rw [acceptEdit_failed e hdisplay]
    rw [hdisplay] at hkept
    have hmatters : ¬ e.effect.Matters s.panel.settings := by simpa using hkept
    cases heffect : e.effect with
    | command c => exact absurd (by rw [heffect]; trivial) hmatters
    | preset m field value =>
      have hsame : s.panel.settings.presets.update m (·.store field value) =
          s.panel.settings.presets := by
        rw [heffect] at hmatters
        exact Classical.not_not.mp hmatters
      refine ⟨?_, by simpa [Scene.afterCalls, Scene.shownAs, sentCommands] using h, rfl, rfl⟩
      simp [Panel.leaving, Scene.shownAs, hsame]

/-! ### Recovering -/

/-- What was declined is said in a message, and a failed display call is passed over. -/
theorem recovering_eq :
    recovering act a s =
      match act a s with
      | .ok x t => .ok x t
      | .error f t => recover f a t := by
  simp only [recovering, tryCatch, tryCatchThe, MonadExcept.tryCatch, MonadExceptOf.tryCatch]
  unfold EStateM.tryCatch
  cases act a s <;> rfl

/-- A message comes up whether it can be drawn or not. -/
theorem showMessage_eq (text : String) :
    ∃ u, showMessage text a s = .ok () u ∧
      Scene.Redrawn { s with panel := s.panel.withMessage text } u := by
  have h : (showMessage text).Ensures
      (fun _ u => Scene.Redrawn { s with panel := s.panel.withMessage text } u)
      (fun _ _ => False) a s := by
    unfold showMessage Panel.withMessage
    split
    · exact Scene.Redrawn.refl s
    · simp only [ensures_bind, ensures_change, ensures_panel]
      exact ensures_drawIfPossible fun shown calls _ => Scene.redrawn_afterCalls _ shown calls
  obtain ⟨_, u, hu, hdrawn⟩ := exists_eq_ok h
  exact ⟨u, hu, hdrawn⟩

/-- The act ends well, and ends alike with a display that never fails. -/
def Steady (act : Act Unit) (a : Answers) (s t : Scene) : Prop :=
  ∃ s' t', act a s = .ok () s' ∧ act a.clear t = .ok () t' ∧ s'.Agrees t'

/-- A steady act makes no difference for a steady one behind it. -/
theorem Steady.bind {next : Unit → Act Unit} (h : act.Steady a s t)
    (hnext : ∀ s' t', act a s = .ok () s' → s'.Agrees t' → (next ()).Steady a s' t') :
    (act >>= next).Steady a s t := by
  obtain ⟨s', t', hact, hclear, hagree⟩ := h
  obtain ⟨s'', t'', hact', hclear', hagree'⟩ := hnext s' t' hact hagree
  exact ⟨s'', t'', (bind_eq hact).trans hact', (bind_eq hclear).trans hclear', hagree'⟩

/-- A message is shown in a steady way. -/
theorem steady_showMessage (text : String) (hst : s.Agrees t) :
    (showMessage text).Steady a s t := by
  obtain ⟨s', hs, hs'⟩ := showMessage_eq (a := a) (s := s) text
  obtain ⟨t', ht, ht'⟩ := showMessage_eq (a := a.clear) (s := t) text
  exact ⟨s', t', hs, ht, hst.redrawn (·.withMessage text) hs' ht'⟩

/-- Whatever cuts an act short that draws last, it is passed over or leads to the same message. -/
theorem DrawsLast.recovering (h : act.DrawsLast a s t.events t.displayCalls) (hst : s.Agrees t) :
    (recovering act).Steady a s t := by
  unfold DrawsLast at h
  rw [← hst.eq_shownAs] at h
  unfold Steady
  rw [recovering_eq, recovering_eq]
  cases hact : act a s with
  | ok _ s' =>
    cases hclear : act a.clear t with
    | ok _ t' =>
      rw [hact, hclear] at h
      exact ⟨s', t', rfl, rfl, h.2⟩
    | error g t' =>
      rw [hact, hclear] at h
      exact h.elim
  | error f s' =>
    cases f with
    | display f =>
      cases hclear : act a.clear t with
      | ok _ t' =>
        rw [hact, hclear] at h
        exact ⟨s', t', rfl, rfl, h⟩
      | error g t' =>
        rw [hact, hclear] at h
        exact h.elim
    | refused r =>
      cases hclear : act a.clear t with
      | ok _ t' =>
        rw [hact, hclear] at h
        exact h.elim
      | error g t' =>
        rw [hact, hclear] at h
        obtain ⟨rfl, hagree⟩ := h
        exact steady_showMessage _ hagree

/-! ### Keys -/

/-- All editors are handled alike. -/
theorem handle_eq_valueEdit {screen : Screen} (h : screen.isEditor) :
    handle screen = valueEdit := by
  cases screen <;> first | rfl | contradiction

/-- A press accepts the edit. -/
theorem valueEdit_enter {e : Edit} (he : s.panel.edit = some e) :
    valueEdit .enter a s = acceptEdit e a s := by
  obtain ⟨p, _⟩ := s
  cases p
  subst he
  rfl

/-- An accepted edit takes effect, or it would have had none. -/
def Kept (s : Scene) (symbol : Symbol) (a : Answers) : Prop :=
  s.panel.screen.isEditor → symbol = .enter → ∀ e, s.panel.edit = some e →
    e.effect.Matters s.panel.settings → a.display s.displayCalls = none

/-- A key draws last unless it accepts an edit that is lost. -/
theorem Kept.drawsLast {symbol : Symbol} (hkept : Kept s symbol a)
    (h : sentCommands s.events = sentCommands events) :
    (handle s.panel.screen symbol).DrawsLast a s events calls := by
  by_cases haccepts : s.panel.screen.isEditor ∧ symbol = .enter
  · obtain ⟨heditor, rfl⟩ := haccepts
    cases he : s.panel.edit with
    | none => exact drawsLast_handle (fun _ _ => he) h
    | some e =>
      have haccept : (acceptEdit e).DrawsLast a s events calls :=
        drawsLast_acceptEdit (hkept heditor rfl e he) h
      unfold DrawsLast at haccept ⊢
      have he' : (s.shownAs events calls).panel.edit = some e := he
      rw [handle_eq_valueEdit heditor, valueEdit_enter he, valueEdit_enter he']
      exact haccept
  · exact drawsLast_handle (fun heditor hsymbol => absurd ⟨heditor, hsymbol⟩ haccepts) h

/-- The scene in which a screen handles a key. -/
def woken (s : Scene) (shown : Drawing) : Scene :=
  ({ s with panel := s.panel.awake }).afterCalls shown (if s.panel.dimmed then 1 else 0)

/-- Scenes that agree still do once the display is woken. -/
theorem agrees_woken (hst : s.Agrees t) (shown shown' : Drawing) :
    (woken s shown).Agrees (woken t shown') :=
  hst.redrawn (·.awake) (Scene.redrawn_afterCalls _ _ _) (Scene.redrawn_afterCalls _ _ _)

/-- A key does the same whatever display calls fail, unless it accepts an edit that is lost. -/
theorem steady_key {k : Key} (hst : s.Agrees t)
    (hkept : ∀ shown, Kept (woken s shown) (s.panel.symbolOf k) a) : (key k).Steady a s t := by
  obtain ⟨events, calls, rfl⟩ : ∃ events calls, t = s.shownAs events calls :=
    ⟨_, _, hst.eq_shownAs⟩
  obtain ⟨shown, -, hkey⟩ := key_eq (a := a) (s := s) k
  obtain ⟨shown', -, hclear⟩ := key_eq (a := a.clear) (s := s.shownAs events calls) k
  have hagree := agrees_woken hst shown shown'
  obtain ⟨s', t', hs, ht, hend⟩ := ((hkept shown).drawsLast hagree.sent).recovering hagree
  exact ⟨s', t', hkey.trans hs, hclear.trans ht, hend⟩

/-- At most one key. -/
def keyIfAny : Option Key → Act Unit
  | none => pure ()
  | some k => key k

/-- Reading the knob delivers at most one key. -/
theorem keyOfKnob_eq (decode : Knob → Option Key × Knob) :
    keyOfKnob decode a s = keyIfAny (decode s.panel.knob).1 a
      { s with panel := { s.panel with knob := (decode s.panel.knob).2 } } := by
  have hpanel : panel a s = .ok s.panel s := rfl
  rw [keyOfKnob, bind_eq hpanel]
  dsimp only
  cases (decode s.panel.knob).1 <;> rfl

/-- The knob is handled in a steady way unless a key of it accepts an edit that is lost. -/
theorem steady_keyOfKnob {decode : Knob → Option Key × Knob} (hst : s.Agrees t)
    (hkept : ∀ k shown, (decode s.panel.knob).1 = some k →
      Kept (woken { s with panel := { s.panel with knob := (decode s.panel.knob).2 } } shown)
        (s.panel.symbolOf k) a) :
    (keyOfKnob decode).Steady a s t := by
  unfold Steady
  rw [keyOfKnob_eq, keyOfKnob_eq, ← hst.panel]
  have hagree := hst.change ({ · with knob := (decode s.panel.knob).2 })
  rw [← hst.panel] at hagree
  cases hk : (decode s.panel.knob).1 with
  | none => exact ⟨_, _, rfl, rfl, hagree⟩
  | some k => exact steady_key hagree fun shown => hkept k shown hk

/-- The act ends well, but not alike with a display that never fails. -/
def Parted (act : Act Unit) (a : Answers) (s t : Scene) : Prop :=
  ∃ s' t', act a s = .ok () s' ∧ act a.clear t = .ok () t' ∧
    ¬ (s'.panel = t'.panel ∧ sentCommands s'.events = sentCommands t'.events)

/-- A command that is sent leaves a trace, whether it is accepted or not. -/
theorem recovering_takeEffect_command (command : Command) (s : Scene) :
    ∃ u accepted, recovering (takeEffect (.command command)) a s = .ok () u ∧
      sentCommands u.events = sentCommands s.events ++ [(command, accepted)] := by
  rw [recovering_eq]
  cases hcommand : a.command s.commands with
  | none =>
    refine ⟨s.afterCommand command true, true, ?_, by simp [Scene.afterCommand]⟩
    rw [takeEffect, send_eq_ok hcommand]
  | some r =>
    obtain ⟨u, hu, hdrawn⟩ := showMessage_eq (a := a) (s := s.afterCommand command false)
      ("Error: " ++ r.message)
    refine ⟨u, false, ?_, ?_⟩
    · rw [takeEffect, send_eq_error hcommand]
      exact hu
    · rw [← hdrawn.agrees.sent]
      simp [Scene.afterCommand]

/-- What an edit would do is not done if its settled value cannot be shown. -/
theorem parted_acceptEdit {e : Edit} (hst : s.Agrees t)
    (hmatters : e.effect.Matters s.panel.settings) (hfails : a.display s.displayCalls ≠ none) :
    (recovering (acceptEdit e)).Parted a s t := by
  obtain ⟨f, hf⟩ := Option.ne_none_iff_exists'.mp hfails
  obtain ⟨c, hshown⟩ := acceptEdit_shown (a := a.clear) (s := t) e rfl
  let left : Scene := ({ s with panel := s.panel.leaving e }).afterCalls [] 1
  let shown : Scene := ({ t with panel := t.panel.leaving e }).afterCalls [c] 1
  have hleft : recovering (acceptEdit e) a s = .ok () left := by
    rw [recovering_eq, acceptEdit_failed e hf]
    rfl
  have hclear : recovering (acceptEdit e) a.clear t =
      recovering (takeEffect e.effect) a.clear shown := by
    rw [recovering_eq, recovering_eq, hshown]
  have hsent : sentCommands left.events = sentCommands shown.events := by
    simpa [left, shown, Scene.afterCalls, sentCommands] using hst.sent
  cases heffect : e.effect with
  | command command =>
    obtain ⟨u, accepted, hu, hlonger⟩ :=
      recovering_takeEffect_command (a := a.clear) command shown
    rw [heffect] at hclear
    refine ⟨left, u, hleft, hclear.trans hu, ?_⟩
    rintro ⟨-, hsame⟩
    have hlength := congrArg List.length (hsame.symm.trans hsent)
    simp [hlonger] at hlength
  | preset m field value =>
    let presets := shown.panel.settings.presets.update m (·.store field value)
    let stored : Scene := { shown with
      panel := { shown.panel with settings := { shown.panel.settings with presets := presets } } }
    have hstored : recovering (takeEffect e.effect) a.clear shown = .ok () stored := by
      rw [heffect]
      rfl
    refine ⟨left, stored, hleft, hclear.trans hstored, ?_⟩
    rintro ⟨hsame, -⟩
    have hpresets : s.panel.settings.presets = presets := congrArg (·.settings.presets) hsame
    have hsettings : presets = s.panel.settings.presets.update m (·.store field value) := by
      rw [hst.panel]
      rfl
    rw [heffect] at hmatters
    exact hmatters (hsettings.symm.trans hpresets.symm)

/-- A key that accepts an edit which is lost does not do what it would have done. -/
theorem parted_key {e : Edit} (hst : s.Agrees t) (heditor : s.panel.screen.isEditor)
    (he : s.panel.edit = some e) (hmatters : e.effect.Matters s.panel.settings)
    (hfails : a.display (s.displayCalls + if s.panel.dimmed then 1 else 0) ≠ none) :
    (key .click).Parted a s t := by
  obtain ⟨shown, -, hkey⟩ := key_eq (a := a) (s := s) .click
  obtain ⟨shown', -, hclear⟩ := key_eq (a := a.clear) (s := t) .click
  have henter (p : Panel) : p.symbolOf .click = .enter := by
    unfold Panel.symbolOf
    split <;> rfl
  have haccept (b : Answers) {u : Scene} (hu : u.panel.edit = some e) :
      recovering (valueEdit .enter) b u = recovering (acceptEdit e) b u := by
    rw [recovering_eq, recovering_eq, valueEdit_enter hu]
  have hagree := agrees_woken hst shown shown'
  have hlit : (woken s shown).panel.edit = some e := he
  have hlit' : (woken t shown').panel.edit = some e := by rw [← hagree.panel, hlit]
  obtain ⟨s', t', hs, ht, happart⟩ := parted_acceptEdit hagree hmatters hfails
  rw [henter, handle_eq_valueEdit heditor] at hkey
  rw [henter, handle_eq_valueEdit (hst.panel ▸ heditor)] at hclear
  exact ⟨s', t', (hkey.trans (haccept a hlit)).trans hs,
    (hclear.trans (haccept a.clear hlit')).trans ht, happart⟩

/-- What parts the scenes comes after a steady step. -/
theorem Steady.parted_bind {next : Unit → Act Unit} (h : act.Steady a s t)
    (hnext : ∀ s' t', act a s = .ok () s' → s'.Agrees t' → (next ()).Parted a s' t') :
    (act >>= next).Parted a s t := by
  obtain ⟨s', t', hact, hclear, hagree⟩ := h
  obtain ⟨s'', t'', hact', hclear', happart⟩ := hnext s' t' hact hagree
  exact ⟨s'', t'', (bind_eq hact).trans hact', (bind_eq hclear).trans hclear', happart⟩

/-- A display that never fails shows any screen. -/
theorem goTo_clear (screen : Screen) :
    ∃ u, goTo screen a.clear s = .ok () u ∧
      Scene.Redrawn { s with panel := { s.panel with screen := screen } } u := by
  let gone : Scene := { s with panel := { s.panel with screen := screen } }
  let picture : Drawing := gone.panel.picture screen
  exact ⟨gone.afterCalls picture picture.length, draw_clear picture gone,
    gone.redrawn_afterCalls _ _⟩

/-! ### Reports -/

/-- Bringing the panel in line with a report ends well, or with a display call that failed after
some of the changes. -/
theorem reconcile_cases (r : Status) (previous : Option Status) :
    (∃ u, reconcile r previous a s = .ok () u ∧
      Scene.Redrawn { s with panel := s.panel.following r } u) ∨
    ∃ f u made, reconcile r previous a s = .error (.display f) u ∧
      (∃ n, a.display n = some f) ∧ made <+: Panel.changesFor r ∧
      Scene.Redrawn { s with panel := s.panel.after made } u := by
  have h := makes_reconcile (a := a) (s := s) r previous
  unfold Makes Ensures at h
  cases hact : reconcile r previous a s with
  | ok _ u =>
    simp only [hact] at h
    exact .inl ⟨u, rfl, h⟩
  | error f u =>
    simp only [hact] at h
    obtain ⟨⟨n, failure, rfl, hfailed⟩, made, hmade, hu⟩ := h
    exact .inr ⟨failure, u, made, rfl, ⟨n, hfailed⟩, hmade, hu⟩

/-- On a display that never fails a report is followed to the end. -/
theorem reconcile_clear (r : Status) (previous : Option Status) :
    ∃ u, reconcile r previous a.clear s = .ok () u ∧
      Scene.Redrawn { s with panel := s.panel.following r } u := by
  obtain h | ⟨f, u, made, -, ⟨n, hfailed⟩, -⟩ :=
    reconcile_cases (a := a.clear) (s := s) r previous
  · exact h
  · contradiction

/-- A report that no failure cuts short has the same effect on every display. -/
theorem steady_reconcile {r : Status} {previous : Option Status} (hst : s.Agrees t)
    (hwhole : ∀ f u, reconcile r previous a s = .error (.display f) u →
      u.panel = s.panel.following r) :
    (recovering (reconcile r previous)).Steady a s t := by
  obtain ⟨t', ht, ht'⟩ := reconcile_clear (a := a) (s := t) r previous
  unfold Steady
  rw [recovering_eq, recovering_eq, ht]
  obtain ⟨u, hu, hu'⟩ | ⟨f, u, made, hu, -, -, hu'⟩ := reconcile_cases (a := a) (s := s) r previous
  · rw [hu]
    exact ⟨u, t', rfl, rfl, hst.redrawn (·.following r) hu' ht'⟩
  · have hline : s.panel.after made = s.panel.following r :=
      hu'.panel_eq.symm.trans (hwhole f u hu)
    rw [hline] at hu'
    rw [hu]
    exact ⟨u, t', rfl, rfl, hst.redrawn (·.following r) hu' ht'⟩

/-- Counting an idle tick dims the display by one call when it is time. -/
theorem countIdleTick_counted : countIdleTick a s = .ok () (s.counted a) := by
  apply eq_ok
  simp only [countIdleTick, Scene.counted, Scene.dimming, Panel.idled, ensures_bind,
    ensures_change, ensures_panel]
  split
  · next hdims =>
    have hlit : s.panel.dimmed = false := by
      simpa using (Bool.and_eq_true_iff.mp (Bool.and_eq_true_iff.mp hdims).1).1
    rw [ensures_bind, ensures_change, Ensures, light_eq]
    simp [hlit]
  · simp

/-- An idle tick is counted whether or not the display can be dimmed. -/
theorem countIdleTick_eq :
    ∃ u, countIdleTick a s = .ok () u ∧ Scene.Redrawn { s with panel := s.panel.idled } u :=
  ⟨s.counted a, countIdleTick_counted, Scene.redrawn_afterCalls _ _ _⟩

/-- A report changes the panel up to a display call that fails, and an idle tick is counted. -/
theorem hear_ends {r : Status} (hreport : a.status s.looks = some r) :
    ∃ t made, hear a s = .ok () t ∧ made <+: Panel.changesFor r ∧
      Scene.Redrawn { s.heard r with panel := ((s.heard r).panel.after made).idled } t := by
  obtain ⟨u, made, hu, hmade, hudrawn⟩ : ∃ u made,
      recovering (reconcile r s.panel.lastStatus) a (s.heard r) = .ok () u ∧
        made <+: Panel.changesFor r ∧
          Scene.Redrawn { s.heard r with panel := (s.heard r).panel.after made } u := by
    obtain ⟨u, hu, hudrawn⟩ | ⟨f, u, made, hu, -, hmade, hudrawn⟩ :=
      reconcile_cases (a := a) (s := s.heard r) r s.panel.lastStatus
    · exact ⟨u, _, by rw [recovering_eq, hu], List.prefix_refl _, hudrawn⟩
    · exact ⟨u, made, by rw [recovering_eq, hu]; rfl, hmade, hudrawn⟩
  obtain ⟨t, ht, htdrawn⟩ := countIdleTick_eq (a := a) (s := u)
  refine ⟨t, made, by rw [hear_eq_of_some hreport, bind_eq hu, ht], hmade, ?_⟩
  rw [hudrawn.panel_eq] at htdrawn
  exact (hudrawn.change _).trans htdrawn

/-- Looking at the printer changes the panel and draws, and that is all. -/
theorem hear_draws :
    ∃ t p, hear a s = .ok () t ∧ Scene.Redrawn { s with panel := p, looks := s.looks + 1 } t := by
  cases hreport : a.status s.looks with
  | none => exact ⟨_, s.panel, hear_eq_of_none hreport, Scene.Redrawn.refl _⟩
  | some r =>
    obtain ⟨t, made, ht, -, hdrawn⟩ := hear_ends hreport
    exact ⟨t, _, ht, hdrawn⟩

/-- An idle tick is counted in a steady way. -/
theorem steady_countIdleTick (hst : s.Agrees t) : countIdleTick.Steady a s t := by
  obtain ⟨s', hs, hs'⟩ := countIdleTick_eq (a := a) (s := s)
  obtain ⟨t', ht, ht'⟩ := countIdleTick_eq (a := a.clear) (s := t)
  exact ⟨s', t', hs, ht, hst.redrawn (·.idled) hs' ht'⟩

/-- A report that a failure cuts short leaves another panel. -/
theorem parted_reconcile {r : Status} {previous : Option Status} {f : Display.Failure} {u : Scene}
    (hst : s.Agrees t) (hcut : reconcile r previous a s = .error (.display f) u)
    (hpart : u.panel ≠ s.panel.following r) :
    (recovering (reconcile r previous) >>= fun _ => countIdleTick).Parted a s t := by
  obtain ⟨v, hv, hvpanel⟩ := reconcile_clear (a := a) (s := t) r previous
  obtain ⟨made, hmade, hu⟩ : ∃ made, made <+: Panel.changesFor r ∧
      u.panel = s.panel.after made := by
    obtain ⟨w, hw, -⟩ | ⟨_, w, made, hw, -, hmade, hdrawn⟩ :=
      reconcile_cases (a := a) (s := s) r previous
    · rw [hcut] at hw
      contradiction
    · rw [hcut] at hw
      cases hw
      exact ⟨made, hmade, hdrawn.panel_eq⟩
  have hreal : recovering (reconcile r previous) a s = .ok () u := by
    rw [recovering_eq, hcut]
    rfl
  have hclear : recovering (reconcile r previous) a.clear t = .ok () v := by
    rw [recovering_eq, hv]
  obtain ⟨u', hu', hudrawn⟩ := countIdleTick_eq (a := a) (s := u)
  obtain ⟨v', hv', hvdrawn⟩ := countIdleTick_eq (a := a.clear) (s := v)
  refine ⟨u', v', (bind_eq hreal).trans hu', (bind_eq hclear).trans hv', ?_⟩
  rintro ⟨hsame, -⟩
  have habsence : u.panel.absence = v.panel.absence := by
    rw [hu, hvpanel.panel_eq, Panel.following, Panel.absence_after hmade.subset,
      Panel.absence_after (List.Subset.refl _), hst.panel]
  have hidled : u.panel.idled = v.panel.idled :=
    hudrawn.panel_eq.symm.trans (hsame.trans hvdrawn.panel_eq)
  apply hpart
  rw [Panel.idled_inj habsence hidled, hvpanel.panel_eq, hst.panel]

end Act

end PrinterPanel
