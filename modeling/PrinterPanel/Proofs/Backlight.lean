import PrinterPanel.Proofs.Compositions

/-!
# Idle ticks and the backlight

A tick that reads a report is an idle tick, and a key starts to count them again. The display is
dimmed when there were as many as the settings ask for, and nothing but a key wakes it. Whatever
else happens, a message, a popup, another screen for a report, or a tick without a report, does
neither.
-/

namespace PrinterPanel

open Display (Canvas Drawing Unlit)

/-! ### Reports since the last key -/

/-- What the count of idle ticks goes by. -/
inductive Signal where
  /-- A key was handled. -/
  | key
  /-- A tick has read a report. -/
  | report
  deriving DecidableEq, Repr

/-- The reports that were read since the last key, or from the beginning if there was none. -/
def quietReports (signals : List Signal) : Nat :=
  (signals.reverse.takeWhile (· = .report)).length

/-- Before any signal, no report has gone by. -/
@[simp] theorem quietReports_nil : quietReports [] = 0 := rfl

/-- A key ends the quiet. -/
@[simp] theorem quietReports_key (signals : List Signal) :
    quietReports (signals ++ [.key]) = 0 := by
  simp [quietReports]

/-- Without a key in between, a report is counted on top of the earlier ones. -/
@[simp] theorem quietReports_report (signals : List Signal) :
    quietReports (signals ++ [.report]) = quietReports signals + 1 := by
  simp [quietReports]

/-- Attending to the knob leaves the settings alone. -/
theorem Scene.attended_settings (s : Scene) (a : Answers) (decoded : Option Key × Knob) :
    (s.attended a decoded).panel.settings = s.panel.settings := by
  unfold attended
  cases decoded.1 <;> rfl

/-- Counting an idle tick leaves the settings alone. -/
theorem Scene.counted_settings (s : Scene) (a : Answers) :
    (s.counted a).panel.settings = s.panel.settings := by
  change s.panel.idled.settings = s.panel.settings
  rw [Panel.idled_eq]

namespace Panel

variable {p q : Panel} {op : Operation} {a : Answers} {c : Canvas}

/-- The signals of an operation. The key of a button that is held comes before the report of the
same tick. -/
def signals (p : Panel) (op : Operation) (a : Answers) : List Signal :=
  (if (p.keyOf op).isSome then [.key] else []) ++
    if (p.reads op a).isSome then [.report] else []

/-- The signals of a run. -/
def runSignals (p : Panel) : List (Operation × Answers) → List Signal
  | [] => []
  | (op, a) :: rest => p.signals op a ++ (p.perform op a).panel.runSignals rest

/-- The display is to be dimmed after so many idle ticks. -/
def DimsAt (p : Panel) (idleTicks : Nat) : Prop :=
  p.settings.screen.dimTicks ≠ 0 ∧ p.settings.screen.dimTicks ≤ idleTicks

instance (p : Panel) (idleTicks : Nat) : Decidable (p.DimsAt idleTicks) :=
  inferInstanceAs (Decidable (_ ∧ _))

/-- Idle ticks are counted up to the limit of a counter, and the display is dimmed by them. -/
structure CountsIdle (p : Panel) (signals : List Signal) : Prop where
  ticks : p.idleTicks = min Bounds.counterLimit (quietReports signals)
  dimmed : p.dimmed = true ↔ p.DimsAt p.idleTicks

/-- A new panel has counted nothing. -/
theorem countsIdle_ofSettings (s : Settings) (width height : Nat) :
    (ofSettings s width height).CountsIdle [] where
  ticks := rfl
  dimmed := by
    simp only [ofSettings, DimsAt, Bool.false_eq_true, false_iff]
    omega

/-- The count of idle ticks goes up by one and stops at the limit of its counter. -/
theorem idled_idleTicks (p : Panel) :
    p.idled.idleTicks = min (p.idleTicks + 1) Bounds.counterLimit := by
  simp only [idled]
  split <;> rfl

/-- The display remains dimmed while idle ticks are counted. -/
theorem idled_dimmed_iff (p : Panel) :
    p.idled.dimmed = true ↔ p.dimmed = true ∨ p.DimsAt p.idled.idleTicks := by
  rw [idled_idleTicks]
  simp only [idled, DimsAt]
  split
  · next hdims => simp_all
  · next hstays =>
    cases hdimmed : p.dimmed with
    | true => simp
    | false => simpa [hdimmed] using hstays

/-- A report that is heard is counted. -/
theorem CountsIdle.idled {signals : List Signal} (h : p.CountsIdle signals) :
    p.idled.CountsIdle (signals ++ [.report]) where
  ticks := by
    rw [idled_idleTicks, h.ticks, quietReports_report]
    omega
  dimmed := by
    have hsettings : p.idled.settings = p.settings := by rw [idled_eq]
    have hticks := p.idled_idleTicks
    have hcount := h.ticks
    rw [idled_dimmed_iff, h.dimmed, DimsAt, DimsAt, DimsAt, hsettings]
    omega

/-- Counting goes by the idle ticks, the light and what the settings say of it. -/
theorem CountsIdle.congr {signals : List Signal} (h : p.CountsIdle signals)
    (habsence : q.absence = p.absence) (hscreen : q.settings.screen = p.settings.screen) :
    q.CountsIdle signals := by
  obtain ⟨hticks, hdimmed⟩ := Prod.mk.inj habsence
  constructor
  · rw [hticks, h.ticks]
  · rw [hdimmed, h.dimmed, DimsAt, DimsAt, hticks, hscreen]

/-- The panel after the look at the key of an operation. -/
def roused (p : Panel) (op : Operation) : Panel :=
  if (p.keyOf op).isSome then { p with idleTicks := 0, dimmed := false } else p

/-- Rousing the panel leaves the settings alone. -/
@[simp] theorem roused_settings (p : Panel) (op : Operation) :
    (p.roused op).settings = p.settings := by
  unfold roused
  split <;> rfl

/-- Attending to the knob tells whether the user is away as rousing the panel does. -/
theorem absence_attended (p : Panel) (op : Operation) (a : Answers) :
    ((Scene.opening p).attended a (p.decoded op)).panel.absence = (p.roused op).absence := by
  unfold Scene.attended roused
  rw [decoded_fst]
  cases p.keyOf op <;> rfl

/-- A key sets the count back, and any other operation keeps it. -/
theorem CountsIdle.roused {signals : List Signal} (h : p.CountsIdle signals) (op : Operation) :
    (p.roused op).CountsIdle (signals ++ if (p.keyOf op).isSome then [.key] else []) := by
  unfold Panel.roused
  split
  · constructor
    · rw [quietReports_key]
      rfl
    · simp only [DimsAt, Bool.false_eq_true, false_iff]
      omega
  · simpa using h

/-- What the settings say of the display stays. -/
theorem perform_screenSettings (p : Panel) (op : Operation) (a : Answers) :
    (p.perform op a).panel.settings.screen = p.settings.screen := by
  have hscreen := congrArg Settings.screen (p.perform_fixed op a).2
  exact hscreen

/-- An operation rouses the panel for a key, draws parts, and counts an idle tick for a report. -/
theorem perform_cases (h : p.Drawable c) (hop : op ≠ .start) (a : Answers) :
    ∃ t, ((Scene.opening p).attended a (p.decoded op)).Composes c t ∧
      t.panel.absence = (p.roused op).absence ∧ t.panel.settings.screen = p.settings.screen ∧
      p.perform op a = if (p.reads op a).isSome then t.counted a else t := by
  obtain ⟨t, hcomposes, habsence, hperform⟩ := perform_composes (a := a) h hop
  refine ⟨t, hcomposes, habsence.trans (p.absence_attended op a), ?_, hperform⟩
  have hscreen := p.perform_screenSettings op a
  rw [hperform] at hscreen
  split at hscreen
  · rwa [Scene.counted_settings] at hscreen
  · exact hscreen

/-- Every operation keeps the count. -/
theorem CountsIdle.perform {signals : List Signal} (h : p.CountsIdle signals)
    (hdrawable : p.Drawable c) (op : Operation) (a : Answers) :
    (p.perform op a).panel.CountsIdle (signals ++ p.signals op a) := by
  by_cases hop : op = .start
  · subst hop
    have hsignals : p.signals .start a = [] := rfl
    rw [hsignals, List.append_nil]
    exact h.congr (perform_start_composes hdrawable a).2 (p.perform_screenSettings .start a)
  · obtain ⟨t, -, habsence, hscreen, hperform⟩ := perform_cases hdrawable hop a
    have ht : t.panel.CountsIdle (signals ++ if (p.keyOf op).isSome then [.key] else []) :=
      (h.roused op).congr habsence (by rw [hscreen, p.roused_settings op])
    rw [hperform, Panel.signals, ← List.append_assoc]
    cases (p.reads op a).isSome with
    | true => exact ht.idled
    | false => simpa using ht

/-- Every run keeps the count. -/
theorem CountsIdle.run {signals : List Signal} (h : p.CountsIdle signals)
    (hdrawable : p.Drawable c) (ops : List (Operation × Answers)) :
    (p.run ops).1.CountsIdle (signals ++ p.runSignals ops) := by
  induction ops generalizing p signals with
  | nil => simpa [Panel.run, runSignals] using h
  | cons x rest ih =>
    obtain ⟨op, a⟩ := x
    have hnext : (p.perform op a).panel.Drawable c :=
      (invariant_drawable c).perform (fun _ => hdrawable.shows .mainMenu) hdrawable
    rw [runSignals, ← List.append_assoc]
    exact ih (h.perform hdrawable op a) hnext

/-! ### The light -/

/-- The level that the backlight is to have. -/
def lightLevel (p : Panel) : Nat :=
  if p.dimmed then p.settings.screen.dimBrightness else p.settings.screen.brightness

/-- The light depends on the absence of the user and on the settings of the screen only. -/
theorem lightLevel_congr (habsence : q.absence = p.absence)
    (hscreen : q.settings.screen = p.settings.screen) : q.lightLevel = p.lightLevel := by
  have hdimmed : q.dimmed = p.dimmed := congrArg Prod.snd habsence
  rw [lightLevel, lightLevel, hdimmed, hscreen]

/-- No display call of an operation fails. -/
def CallsSucceed (p : Panel) (op : Operation) (a : Answers) : Prop :=
  ∀ n < (p.perform op a).displayCalls, a.display n = none

/-- No display call of a run fails. -/
def RunSucceeds (p : Panel) : List (Operation × Answers) → Prop
  | [] => True
  | (op, a) :: rest => p.CallsSucceed op a ∧ (p.perform op a).panel.RunSucceeds rest

/-- A run succeeds if no display call fails in it. -/
theorem runSucceeds_of_none {ops : List (Operation × Answers)}
    (h : ∀ x ∈ ops, ∀ n, x.2.display n = none) : p.RunSucceeds ops := by
  induction ops generalizing p with
  | nil => trivial
  | cons x rest ih =>
    exact ⟨fun n _ => h x List.mem_cons_self n, ih fun y hy => h y (List.mem_cons_of_mem _ hy)⟩

end Panel

/-- The levels that calls set the backlight to, in their order. -/
def Display.levels (d : Drawing) : List Nat := d.filterMap Call.level?

/-- The levels of two drawings come one after the other. -/
@[simp] theorem Display.levels_append (d d' : Drawing) :
    levels (d ++ d') = levels d ++ levels d' := List.filterMap_append

/-- A drawing that does not touch the light sets no level. -/
theorem Display.levels_of_unlit {d : Drawing} (h : Unlit d) : levels d = [] :=
  List.filterMap_eq_nil_iff.mpr h

/-- After the calls that were made before and so far, the backlight has the level that it is to
have. -/
def Scene.Lit (s : Scene) (before : Drawing) : Prop :=
  (Display.levels (before ++ drawnCalls s.events)).getLast? = some s.panel.lightLevel

namespace Scene.Lit

variable {s t : Scene} {a : Answers} {before : Drawing} {c : Canvas}

/-- Drawing parts leaves the backlight alone. -/
theorem composes (h : s.Lit before) (hst : s.Composes c t)
    (hlevel : t.panel.lightLevel = s.panel.lightLevel) : t.Lit before := by
  obtain ⟨-, -, d, hd, hevents⟩ := hst
  have hdark : Display.levels d = [] :=
    Display.levels_of_unlit (hd.forall_mem fun part _ => part.unlit)
  rw [Lit, hevents, ← List.append_assoc, Display.levels_append, hdark, List.append_nil, hlevel]
  exact h

/-- Setting the backlight to the level that it is to have. -/
theorem lights {level : Nat} (hanswer : a.display s.displayCalls = none) (calls : Nat)
    (hlevel : s.panel.lightLevel = level) :
    (s.afterCalls (a.lit s.displayCalls level) calls).Lit before := by
  rw [Lit, Answers.lit, if_pos hanswer, Scene.drawnCalls_afterCalls, ← List.append_assoc,
    Display.levels_append]
  simp [Display.levels, Display.Call.level?, hlevel]

/-- Waking lights a display that is dimmed. -/
theorem woken (h : s.Lit before)
    (hanswer : s.panel.dimmed = true → a.display s.displayCalls = none) :
    (Act.woken s (s.waking a)).Lit before := by
  unfold Act.woken Scene.waking
  cases hdimmed : s.panel.dimmed with
  | true => exact lights (s := { s with panel := s.panel.awake }) (hanswer hdimmed) 1 rfl
  | false =>
    have hbright : s.panel.awake.lightLevel = s.panel.lightLevel := by
      simp [Panel.lightLevel, hdimmed, Panel.awake]
    simp only [Bool.false_eq_true, if_false, Scene.afterCalls_nil]
    rw [Lit, hbright]
    exact h

/-- Attending to the knob keeps the light as it should be. -/
theorem attended (h : s.Lit before) (decoded : Option Key × Knob)
    (hcalls : ∀ n < (s.attended a decoded).displayCalls, a.display n = none) :
    (s.attended a decoded).Lit before := by
  unfold Scene.attended at hcalls ⊢
  cases hkey : decoded.1 with
  | none => exact h
  | some k =>
    rw [hkey] at hcalls
    refine woken h fun hdimmed => hcalls _ ?_
    change s.displayCalls < s.displayCalls + if s.panel.dimmed = true then 1 else 0
    rw [if_pos hdimmed]
    exact Nat.lt_succ_self _

/-- Counting an idle tick dims the display when it is time. -/
theorem counted (h : s.Lit before)
    (hcalls : ∀ n < (s.counted a).displayCalls, a.display n = none) :
    (s.counted a).Lit before := by
  let q : Scene := { s with panel := s.panel.idled }
  have hsettings : s.panel.idled.settings = s.panel.settings := by rw [Panel.idled_eq]
  revert hcalls
  unfold Scene.counted Scene.dimming
  by_cases hsame : s.panel.idled.dimmed = s.panel.dimmed
  · simp only [hsame, if_true, Scene.afterCalls_nil]
    intro _
    have hlevel : q.panel.lightLevel = s.panel.lightLevel := by
      simp only [q, Panel.lightLevel, hsame, hsettings]
    rw [Lit, hlevel]
    exact h
  · simp only [hsame, if_false]
    intro hcalls
    have hdims : s.panel.idled.dimmed = true := by
      cases hdimmed : s.panel.dimmed with
      | true => exact s.panel.idled_dimmed_iff.mpr (.inl hdimmed)
      | false => simpa [hdimmed] using hsame
    refine lights (s := q) (hcalls _ (Nat.lt_succ_self _)) 1 ?_
    simp [q, Panel.lightLevel, hdims, hsettings]

end Scene.Lit

namespace Panel

variable {p : Panel} {op : Operation} {a : Answers} {c : Canvas} {before : Drawing}

/-- An operation without a display call that fails leaves the backlight at its level. -/
theorem perform_lit (hdrawable : p.Drawable c) (hop : op ≠ .start)
    (hsucceeds : p.CallsSucceed op a) (h : (Scene.opening p).Lit before) :
    (p.perform op a).Lit before := by
  obtain ⟨t, hcomposes, habsence, hscreen, hperform⟩ := perform_cases hdrawable hop a
  have hmonotone : t.displayCalls ≤ (p.perform op a).displayCalls := by
    rw [hperform]
    split
    · exact Nat.le_add_right _ _
    · exact Nat.le_refl _
  have hroused : ((Scene.opening p).attended a (p.decoded op)).Lit before :=
    h.attended _ fun n hn =>
      hsucceeds n (Nat.lt_of_lt_of_le hn (Nat.le_trans hcomposes.2.1 hmonotone))
  have ht : t.Lit before := by
    refine hroused.composes hcomposes (lightLevel_congr ?_ ?_)
    · rw [habsence, absence_attended]
    · rw [hscreen, Scene.attended_settings]
      rfl
  revert hsucceeds
  rw [CallsSucceed, hperform]
  cases (p.reads op a).isSome with
  | true => exact ht.counted
  | false => exact fun _ => ht

/-- A run on a display whose calls do not fail leaves the backlight at its level. -/
theorem run_lit (hdrawable : p.Drawable c) {ops : List (Operation × Answers)}
    (hops : ∀ x ∈ ops, x.1 ≠ .start) (hsucceeds : p.RunSucceeds ops)
    (h : (Display.levels before).getLast? = some p.lightLevel) :
    (Display.levels (before ++ drawnCalls (p.run ops).2)).getLast? =
      some (p.run ops).1.lightLevel := by
  induction ops generalizing p before with
  | nil => simpa [Panel.run] using h
  | cons x rest ih =>
    obtain ⟨op, a⟩ := x
    have hopening : (Scene.opening p).Lit before := by
      rw [Scene.Lit, Scene.opening]
      simpa using h
    have hfirst : (p.perform op a).Lit before :=
      perform_lit hdrawable (hops _ List.mem_cons_self) hsucceeds.1 hopening
    have hnext : (p.perform op a).panel.Drawable c :=
      (invariant_drawable c).perform (fun _ => hdrawable.shows .mainMenu) hdrawable
    have hrest := ih hnext (fun y hy => hops y (List.mem_cons_of_mem _ hy)) hsucceeds.2 hfirst
    simpa [Panel.run, List.append_assoc] using hrest

/-- Without a key, a part of an operation that draws leaves the backlight alone. -/
theorem perform_keyless (hdrawable : p.Drawable c) (hop : op ≠ .start)
    (hkey : p.keyOf op = none) (a : Answers) :
    ∃ t : Scene, Display.levels (drawnCalls t.events) = [] ∧ t.panel.absence = p.absence ∧
      t.panel.settings.screen = p.settings.screen ∧
      p.perform op a = if (p.reads op a).isSome then t.counted a else t := by
  obtain ⟨t, ⟨-, -, d, hd, hevents⟩, habsence, hscreen, hperform⟩ := perform_cases hdrawable hop a
  refine ⟨t, ?_, ?_, hscreen, hperform⟩
  · have hnothing : drawnCalls ((Scene.opening p).attended a (p.decoded op)).events = [] := by
      rw [Scene.attended, decoded_fst, hkey]
      rfl
    rw [hevents, hnothing, List.nil_append]
    exact Display.levels_of_unlit (hd.forall_mem fun part _ => part.unlit)
  · rw [habsence, roused, hkey]
    rfl

/-- Without a key and without a report, the display is neither woken nor dimmed. -/
theorem perform_quiet (hdrawable : p.Drawable c) (hop : op ≠ .start) (hkey : p.keyOf op = none)
    (hreads : p.reads op a = none) :
    let t := p.perform op a
    t.panel.idleTicks = p.idleTicks ∧ t.panel.dimmed = p.dimmed ∧
      Display.levels (drawnCalls t.events) = [] := by
  intro t
  obtain ⟨u, hlevels, habsence, -, hperform⟩ := perform_keyless hdrawable hop hkey a
  have ht : t = u := by
    rw [hreads] at hperform
    exact hperform
  rw [ht]
  exact ⟨congrArg Prod.fst habsence, congrArg Prod.snd habsence, hlevels⟩

/-- Without a key, a report counts as an idle tick, whatever it says, and dims the display when it
is time. -/
theorem perform_idle (hdrawable : p.Drawable c) (hop : op ≠ .start) (hkey : p.keyOf op = none)
    (hreads : (p.reads op a).isSome) :
    let t := p.perform op a
    t.panel.idleTicks = min (p.idleTicks + 1) Bounds.counterLimit ∧
      (t.panel.dimmed = true ↔ p.dimmed = true ∨ p.DimsAt t.panel.idleTicks) ∧
      Display.levels (drawnCalls t.events) <+:
        if t.panel.dimmed = p.dimmed then [] else [p.settings.screen.dimBrightness] := by
  intro t
  obtain ⟨u, hlevels, habsence, hscreen, hperform⟩ := perform_keyless hdrawable hop hkey a
  obtain ⟨hticks, hdimmed⟩ := Prod.mk.inj habsence
  have ht : t = u.counted a := by
    rw [if_pos hreads] at hperform
    exact hperform
  have hpanel : t.panel = u.panel.idled := by
    rw [ht]
    rfl
  have hdims (n : Nat) : u.panel.DimsAt n ↔ p.DimsAt n := by rw [DimsAt, DimsAt, hscreen]
  refine ⟨?_, ?_, ?_⟩
  · rw [hpanel, idled_idleTicks, hticks]
  · rw [hpanel, idled_dimmed_iff, hdimmed, hdims]
  · have hevents : drawnCalls t.events = drawnCalls u.events ++ u.dimming a := by
      rw [ht]
      exact Scene.drawnCalls_afterCalls _ _ _
    rw [hevents, Display.levels_append, hlevels, List.nil_append, hpanel, ← hdimmed, ← hscreen,
      Scene.dimming, Answers.lit]
    split
    · exact List.prefix_refl _
    · split
      · exact List.prefix_refl _
      · exact List.nil_prefix

/-- Once it is switched on, a panel is lit. -/
theorem start_sets_light (s : Settings) (width height : Nat)
    (hsucceeds : (ofSettings s width height).CallsSucceed .start a) :
    ((ofSettings s width height).perform .start a).Lit [] := by
  let p := ofSettings s width height
  obtain ⟨hcomposes, habsence⟩ := perform_start_composes (drawable_ofSettings s width height) a
  have hanswer : a.display 0 = none :=
    hsucceeds 0 (Nat.lt_of_lt_of_le Nat.zero_lt_one hcomposes.2.1)
  have hlit : ((Scene.opening p).afterCalls (a.lit 0 s.screen.brightness) 1).Lit [] :=
    Scene.Lit.lights (s := .opening p) hanswer 1 rfl
  exact hlit.composes hcomposes (lightLevel_congr habsence (p.perform_screenSettings .start a))

/-- After every operation of a panel that is switched on once, before anything else, the idle ticks
are the ticks that have read a report since the last key, up to the limit of a counter. The display
is dimmed exactly if the settings ask for it after so many idle ticks, and unless a display call has
failed, the level that the backlight was set to last is the one for that. Without a key, a message,
a popup, another screen or a tick without a report changes none of this; a tick with a report counts
as an idle tick, whatever the report says. -/
theorem run_backlight (s : Settings) (width height : Nat) (a : Answers)
    {ops : List (Operation × Answers)} (hops : ∀ x ∈ ops, x.1 ≠ .start) :
    let p := ofSettings s width height
    let q := (p.run ((.start, a) :: ops)).1
    let calls := drawnCalls (p.run ((.start, a) :: ops)).2
    q.idleTicks =
        min Bounds.counterLimit (quietReports (p.runSignals ((.start, a) :: ops))) ∧
      (q.dimmed = true ↔ s.screen.dimTicks ≠ 0 ∧ s.screen.dimTicks ≤ q.idleTicks) ∧
      (p.RunSucceeds ((.start, a) :: ops) →
        (Display.levels calls).getLast? =
          some (if q.dimmed then s.screen.dimBrightness else s.screen.brightness)) ∧
      ∀ op a', op ≠ .start → q.keyOf op = none →
        let t := q.perform op a'
        (q.reads op a' = none →
          t.panel.idleTicks = q.idleTicks ∧ t.panel.dimmed = q.dimmed ∧
            Display.levels (drawnCalls t.events) = []) ∧
        ((q.reads op a').isSome →
          t.panel.idleTicks = min (q.idleTicks + 1) Bounds.counterLimit ∧
          (t.panel.dimmed = true ↔ q.dimmed = true ∨
            s.screen.dimTicks ≠ 0 ∧ s.screen.dimTicks ≤ t.panel.idleTicks) ∧
          Display.levels (drawnCalls t.events) <+:
            if t.panel.dimmed = q.dimmed then [] else [s.screen.dimBrightness]) := by
  intro p q calls
  have hp : p.Drawable ⟨width, height, s.language⟩ := drawable_ofSettings s width height
  have hq : q.Drawable ⟨width, height, s.language⟩ :=
    (invariant_drawable _).run (fun _ _ _ _ h => h.shows .mainMenu) hp
  have hfixed : q.canvas = p.canvas ∧ { q.settings with presets := p.settings.presets } = s :=
    (invariant_fixed p.canvas p.settings).run (fun _ _ _ _ h => h) ⟨rfl, rfl⟩
  have hscreen : q.settings.screen = s.screen := by
    have hsame := congrArg Settings.screen hfixed.2
    exact hsame
  have hcounts : q.CountsIdle (p.runSignals ((.start, a) :: ops)) :=
    (countsIdle_ofSettings s width height).run hp _
  refine ⟨hcounts.ticks, ?_, fun hsucceeds => ?_, fun op a' hop hkey => ⟨fun hreads => ?_,
    fun hreads => ?_⟩⟩
  · rw [hcounts.dimmed, DimsAt, hscreen]
  · have hstarted : (p.perform .start a).panel.Drawable ⟨width, height, s.language⟩ :=
      (invariant_drawable _).perform (fun _ => hp.shows .mainMenu) hp
    have hlit : (Display.levels (drawnCalls (p.perform .start a).events)).getLast? =
        some (p.perform .start a).panel.lightLevel := start_sets_light s width height hsucceeds.1
    have hrun := run_lit hstarted hops hsucceeds.2 hlit
    have hcalls : calls = drawnCalls (p.perform .start a).events ++
        drawnCalls ((p.perform .start a).panel.run ops).2 := drawnCalls_append _ _
    rw [hcalls, ← hscreen]
    exact hrun
  · exact perform_quiet hq hop hkey hreads
  · have hidle := perform_idle hq hop hkey hreads
    simp only [DimsAt, hscreen] at hidle
    exact hidle

/-- Two ticks that read a report dim the display, with a message and a tick without a report
between them. -/
theorem backlight_dimmed :
    let s : Settings :=
      { Settings.standard with screen := { Settings.standard.screen with dimTicks := 2 } }
    let reports : Answers := { Answers.smooth with status := fun _ => some .atRest }
    let ops := [(Operation.tick 0, reports), (.message "Filament is low", .smooth),
      (.tick 1000, .smooth), (.tick 2000, reports)]
    let p := ofSettings s 240 320
    let q := (p.run ((.start, .smooth) :: ops)).1
    (∀ x ∈ ops, x.1 ≠ .start) ∧ p.RunSucceeds ((.start, .smooth) :: ops) ∧ q.idleTicks = 2 ∧
      q.dimmed = true ∧
      (Display.levels (drawnCalls (p.run ((.start, .smooth) :: ops)).2)).getLast? =
        some s.screen.dimBrightness := by
  intro s reports ops p q
  have hops : ∀ x ∈ ops, x.1 ≠ .start := by simp [ops]
  have hsucceeds : p.RunSucceeds ((.start, .smooth) :: ops) :=
    runSucceeds_of_none (by simp [ops, reports, Answers.smooth])
  have hquiet : quietReports (p.runSignals ((.start, .smooth) :: ops)) = 2 := by decide +kernel
  obtain ⟨hticks, hdimmed, hlevel, -⟩ := run_backlight s 240 320 .smooth hops
  have hidle : q.idleTicks = 2 := by
    rw [hticks, hquiet]
    rfl
  have hdims : q.dimmed = true := by
    rw [hdimmed, hidle]
    decide
  refine ⟨hops, hsucceeds, hidle, hdims, ?_⟩
  rw [hlevel hsucceeds, if_pos hdims]

end Panel

end PrinterPanel
