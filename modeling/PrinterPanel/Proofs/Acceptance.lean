import PrinterPanel.Proofs.DisplayFailure
import PrinterPanel.Proofs.EditHistory

/-!
# Accepting an edit

While an edit is open nothing is sent but its own command, by the click that accepts it, and only if
its settled value can be shown. A value that was turned lies in the range of its field. So the
printer is sent a value within the limits, or it gets the one back that it had reported when the
edit was opened.
-/

namespace PrinterPanel

/-! ### What a click sends -/

/-- The display call that shows the settled value of an edit succeeds when a click accepts the edit.
That is the first call, or the second if the display has to be lit. -/
def Panel.ShowsSettled (p : Panel) (a : Answers) : Prop :=
  a.display (if p.dimmed then 1 else 0) = none

instance (p : Panel) (a : Answers) : Decidable (p.ShowsSettled a) :=
  inferInstanceAs (Decidable (_ = _))

namespace Act

variable {a : Answers} {s : Scene} {e : Edit} {commands : List Command}

/-- An accepted edit sends its command if its settled value can be shown. -/
theorem recovering_acceptEdit
    (hshown : a.display s.displayCalls = none → commands = e.effect.commands)
    (hfailed : a.display s.displayCalls ≠ none → commands = []) :
    ∃ u, recovering (acceptEdit e) a s = .ok () u ∧ s.Submits commands u := by
  cases hdisplay : a.display s.displayCalls with
  | none =>
    obtain ⟨c, haccept⟩ := acceptEdit_shown e hdisplay
    let shown : Scene := ({ s with panel := s.panel.leaving e }).afterCalls [c] 1
    have heq : recovering (acceptEdit e) a s = recovering (takeEffect e.effect) a shown := by
      rw [recovering_eq, recovering_eq, haccept]
    have hdrawn : submitted shown.events = submitted s.events := by
      simp [shown, Scene.afterCalls, submitted, sentCommands]
    rw [hshown hdisplay, heq]
    cases e.effect with
    | command command =>
      obtain ⟨u, accepted, hu, hsent⟩ := recovering_takeEffect_command (a := a) command shown
      refine ⟨u, hu, ?_⟩
      rw [Scene.Submits, submitted, hsent, List.map_append, ← submitted, hdrawn]
      rfl
    | preset m field value =>
      refine ⟨_, rfl, ?_⟩
      rw [Scene.Submits]
      simpa [EditEffect.commands] using hdrawn
  | some f =>
    rw [recovering_eq, acceptEdit_failed e hdisplay, hfailed (by simp [hdisplay])]
    exact ⟨_, rfl, by simp [Scene.Submits, Scene.afterCalls]⟩

/-- A click on an edit accepts it, after the display is lit if need be. -/
theorem key_click_eq (heditor : s.panel.screen.isEditor) (he : s.panel.edit = some e) :
    ∃ shown, submitted (woken s shown).events = submitted s.events ∧
      key .click a s = recovering (acceptEdit e) a (woken s shown) := by
  obtain ⟨shown, -, hkey⟩ := key_eq (a := a) (s := s) .click
  have he' : (woken s shown).panel.edit = some e := he
  have haccept : recovering (valueEdit .enter) a (woken s shown) =
      recovering (acceptEdit e) a (woken s shown) := by
    rw [recovering_eq, recovering_eq, valueEdit_enter he']
  rw [Panel.symbolOf_click, handle_eq_valueEdit heditor] at hkey
  exact ⟨shown, by simp [woken, Scene.afterCalls], hkey.trans haccept⟩

/-- The first call after the panel was woken is the one that shows the settled value. -/
theorem display_woken (hcalls : s.displayCalls = 0) (shown : Display.Drawing) :
    a.display (woken s shown).displayCalls = none ↔ s.panel.ShowsSettled a := by
  simp [woken, hcalls, Panel.ShowsSettled]

/-- A click on an open edit sends the command of the edit, if the settled value can be shown, and
otherwise nothing. -/
theorem click_submits (heditor : s.panel.screen.isEditor) (he : s.panel.edit = some e)
    (hcalls : s.displayCalls = 0)
    (hshown : s.panel.ShowsSettled a → commands = e.effect.commands)
    (hfailed : ¬ s.panel.ShowsSettled a → commands = []) :
    ∃ u, key .click a s = .ok () u ∧ s.Submits commands u := by
  obtain ⟨shown, hwoken, hkey⟩ := key_click_eq (a := a) heditor he
  have hdisplay := display_woken (a := a) hcalls shown
  obtain ⟨u, hu, hsubmits⟩ : ∃ u, recovering (acceptEdit e) a (woken s shown) = .ok () u ∧
      (woken s shown).Submits commands u :=
    recovering_acceptEdit (fun h => hshown (hdisplay.mp h)) fun h => hfailed (mt hdisplay.mpr h)
  refine ⟨u, hkey.trans hu, ?_⟩
  rw [Scene.Submits, hwoken] at hsubmits
  exact hsubmits

end Act

namespace Panel

variable {p : Panel} {e : Edit} {op : Operation} {a : Answers} {c : Command}

/-- While an edit is open, its screen is one for editing. -/
theorem EditSession.isEditor_of_edit (h : p.EditSession) (he : p.edit = some e) :
    p.screen.isEditor = true := by
  rw [(h.opened e he).2.1]
  exact e.field.isEditor_screen

/-- A click on an edit sends the command of the edit, unless its settled value cannot be shown. -/
theorem EditSession.submitted_click (h : p.EditSession) (he : p.edit = some e)
    (hclick : p.keyOf op = some .click) :
    submitted (p.perform op a).events =
      if p.ShowsSettled a then e.effect.commands else [] := by
  obtain ⟨knob, hact⟩ := act_of_click hclick
  obtain ⟨u, hu, hsubmits⟩ : ∃ u, Act.key .click a (.opening { p with knob := knob }) = .ok () u ∧
      (Scene.opening { p with knob := knob }).Submits
        (if p.ShowsSettled a then e.effect.commands else []) u :=
    Act.click_submits (h.isEditor_of_edit he) he rfl (fun hshown => if_pos hshown)
      fun hfailed => if_neg hfailed
  rw [perform_eq ((hact a).trans hu)]
  exact hsubmits

/-- Without a click nothing is sent while an edit is open. -/
theorem EditSession.commandsOf_eq_nil (h : p.EditSession) (he : p.edit = some e)
    (hother : p.keyOf op ≠ some .click) : p.commandsOf op a = [] := by
  have hscreen : p.screen ≠ .manualProbe := by
    intro hprobe
    have heditor := h.isEditor_of_edit he
    rw [hprobe] at heditor
    contradiction
  unfold commandsOf
  cases hk : p.keyOf op with
  | none => rfl
  | some k =>
    have hsymbol : p.symbolOf k ≠ .enter := by
      intro henter
      rw [hk, symbolOf_eq_enter henter] at hother
      exact hother rfl
    rw [Option.elim_some, commandsFor_of_ne hscreen _ hsymbol]

/-- While an edit is open, the only thing that is sent is its command, by a click. -/
theorem EditSession.mem_submitted_iff (h : p.EditSession) (he : p.edit = some e) :
    c ∈ submitted (p.perform op a).events ↔
      p.keyOf op = some .click ∧ p.ShowsSettled a ∧ e.effect = .command c := by
  by_cases hclick : p.keyOf op = some .click
  · rw [h.submitted_click he hclick]
    by_cases hshown : p.ShowsSettled a
    · cases e.effect <;> simp [hclick, hshown, EditEffect.commands, eq_comm]
    · simp [hshown]
  · simp [submitted_eq_nil (h.commandsOf_eq_nil he hclick), hclick]

end Panel

/-! ### Commands within the limits -/

/-- A range of the settings whose ends fit in 16 bits. -/
def Span.InWords (s : Span) : Prop :=
  Bounds.halfWord.Contains s.min ∧ Bounds.halfWord.Contains s.max

instance (s : Span) : Decidable s.InWords := inferInstanceAs (Decidable (_ ∧ _))

/-- Limits whose numbers fit in the words that they are kept in. -/
structure Limits.InWords (l : Limits) : Prop where
  x : l.x.InWords
  y : l.y.InWords
  z : l.z.InWords
  hotend : l.hotend.InWords
  bed : l.bed.InWords
  maxExtrusion : Bounds.halfWord.Contains l.maxExtrusion

/-- The standard limits fit in words. -/
theorem inWords_standard_limits : Limits.standard.InWords :=
  ⟨by decide, by decide, by decide, by decide, by decide, by decide⟩

/-- A report whose targets and positions fit in the words that they are kept in. -/
structure Status.InWords (r : Status) : Prop where
  hotend : Bounds.halfWord.Contains r.hotend.target
  bed : Bounds.halfWord.Contains r.bed.target
  position : ∀ axis, Bounds.word.Contains (r.position.get axis)

/-- What a printer at rest reports fits in words. -/
theorem inWords_atRest : Status.atRest.InWords :=
  ⟨by decide, by decide, fun axis => by cases axis <;> decide⟩

/-- A value is in a range, or the knob was not turned and it is the one that was reported. -/
def Reasonable (b : Bounds) (reported : Int) (keys : List Key) (v : Int) : Prop :=
  b.Contains v ∨ Unturned keys ∧ v = reported

/-- A command that gives the printer an edited value stays within the limits, as far as the knob was
turned since the report was heard with which the edit was opened. Positions are edited in steps of
0.1 mm, those of the extruder within a distance of the first one. -/
def Command.Respects (l : Limits) (r : Status) (keys : List Key) (v : Int) : Command → Prop
  | .hotendTarget celsius =>
    celsius = v ∧ Reasonable ⟨l.hotend.min, l.hotend.max⟩ r.hotend.target keys v
  | .bedTarget celsius => celsius = v ∧ Reasonable ⟨l.bed.min, l.bed.max⟩ r.bed.target keys v
  | .fanSpeed percent => percent = (clamp 0 100 v).toNat ∧ percent ≤ 100
  | .feedrate percent => percent = v
  | .moveAxis .x um _ =>
    um = 100 * v ∧ Reasonable ⟨10 * l.x.min, 10 * l.x.max⟩ (r.position.x.tdiv 100) keys v
  | .moveAxis .y um _ =>
    um = 100 * v ∧ Reasonable ⟨10 * l.y.min, 10 * l.y.max⟩ (r.position.y.tdiv 100) keys v
  | .moveAxis .z um _ =>
    um = 100 * v ∧ Reasonable ⟨10 * l.z.min, 10 * l.z.max⟩ (r.position.z.tdiv 100) keys v
  | .moveAxis .e um _ =>
    let first := r.position.e.tdiv 100
    let reach := 10 * l.maxExtrusion
    um = Bounds.word.nearest (100 * v) ∧ Bounds.Contains ⟨first - reach, first + reach⟩ v
  | .zOffset um => um = v ∧ Reasonable ⟨-l.zOffset, l.zOffset⟩ r.zOffset keys v
  | .resetExtruder | .disableSteppers | .homeAll | .startPrint _ | .pause | .resume | .cancel
  | .runMacro _ | .savePresets _ | .probeAdjust _ | .probeAccept => False

/-- What the check of the limits rules out. -/
structure Limits.Sound (l : Limits) : Prop where
  x : l.x.min ≤ l.x.max
  y : l.y.min ≤ l.y.max
  z : l.z.min ≤ l.z.max
  hotend : l.hotend.min ≤ l.hotend.max
  bed : l.bed.min ≤ l.bed.max
  maxExtrusion : 0 ≤ l.maxExtrusion
  zOffset : 0 ≤ l.zOffset

/-- Limits that pass the check are sound. -/
theorem Limits.sound_of_check {l : Limits} (h : l.check = .ok ()) : l.Sound := by
  simp only [check, bind, Except.bind, throw, throwThe, MonadExceptOf.throw, pure,
    Except.pure] at h
  split at h
  · contradiction
  · split at h
    · contradiction
    · split at h
      · contradiction
      · split at h
        · contradiction
        · constructor <;> omega

/-- A range between two ends in order has these ends. -/
theorem Bounds.between_eq {a b : Int} (h : a ≤ b) : between a b = ⟨a, b⟩ := if_pos h

/-- A value between two ends that fit in words fits in words, too. -/
theorem Reasonable.nearest_eq {b w : Bounds} {reported v : Int} {keys : List Key}
    (h : Reasonable b reported keys v) (hends : w.Contains b.min ∧ w.Contains b.max)
    (hreported : w.Contains reported) : w.nearest v = v := by
  apply Bounds.nearest_eq
  obtain hcontains | ⟨-, rfl⟩ := h
  · exact ⟨Int.le_trans hends.1.1 hcontains.1, Int.le_trans hcontains.2 hends.2.2⟩
  · exact hreported

/-- Cutting a position to steps of 0.1 mm does not make it longer. -/
theorem Bounds.contains_steps {um : Int} (h : word.Contains um) :
    word.Contains (100 * um.tdiv 100) := by
  have hcut : um.tdiv 100 = um / 100 + if 0 ≤ um ∨ 100 ∣ um then 0 else 1 := Int.tdiv_eq_ediv
  simp only [Contains, word] at *
  split at hcut <;> omega

namespace Edit

variable {first : Edit} {s : Settings} {r : Status} {span : Span} {reported : Int} {c : Command}

/-- A value that is turned, from a fresh edit on, is in its range or still the first one. -/
theorem Fresh.reasonable (h : first.Fresh s r) {b : Bounds}
    (hbounds : first.field.bounds s.limits = b) (hends : b.min ≤ b.max)
    (hreported : first.field.initial s r = reported) (keys : List Key) :
    Reasonable b reported keys (first.after keys).value := by
  have hb : first.bounds = b := h.bounds.trans hbounds
  obtain ⟨hunturned, hsame⟩ | hcontains := after_cases (hb ▸ hends) keys
  · exact .inr ⟨hunturned, by rw [hsame, h.value, hreported]⟩
  · exact .inl (hb ▸ hcontains)

/-- An edited temperature. -/
theorem Fresh.heats (h : first.Fresh s r)
    (hbounds : first.field.bounds s.limits = .between span.min span.max)
    (hends : span.min ≤ span.max) (hspan : span.InWords)
    (hreported : first.field.initial s r = reported) (hword : Bounds.halfWord.Contains reported)
    (keys : List Key) :
    let v := (first.after keys).value
    Bounds.halfWord.nearest v = v ∧ Reasonable ⟨span.min, span.max⟩ reported keys v := by
  intro v
  rw [Bounds.between_eq hends] at hbounds
  have hreasonable := h.reasonable hbounds hends hreported keys
  exact ⟨hreasonable.nearest_eq hspan hword, hreasonable⟩

/-- An edited position of an axis. -/
theorem Fresh.moves (h : first.Fresh s r)
    (hbounds : first.field.bounds s.limits =
      .between (span.min * stepsPerMm) (span.max * stepsPerMm))
    (hends : span.min ≤ span.max) (hspan : span.InWords)
    (hreported : first.field.initial s r = positionSteps reported)
    (hword : Bounds.word.Contains reported) (keys : List Key) :
    let v := (first.after keys).value
    (first.after keys).um = 100 * v ∧
      Reasonable ⟨10 * span.min, 10 * span.max⟩ (reported.tdiv 100) keys v := by
  intro v
  have hsteps : first.field.bounds s.limits = ⟨10 * span.min, 10 * span.max⟩ := by
    rw [hbounds, stepsPerMm, Bounds.between_eq (by omega), Int.mul_comm, Int.mul_comm span.max]
  have hreasonable := h.reasonable hsteps (by dsimp only; omega) hreported keys
  refine ⟨?_, hreasonable⟩
  rw [um, positionUnit, Int.mul_comm]
  apply Bounds.nearest_eq
  obtain hcontains | ⟨-, hfirst⟩ := hreasonable
  · simp only [Span.InWords, Bounds.Contains, Bounds.halfWord, Bounds.word] at *
    omega
  · rw [hfirst]
    exact Bounds.contains_steps hword

/-- An edited position of the extruder. -/
theorem Fresh.extrudes (h : first.Fresh s r) (hlimits : s.limits.Sound)
    (hwords : s.limits.InWords) (hr : r.InWords) {origin : Int}
    (hfield : first.field = .extruder origin) (keys : List Key) :
    Bounds.Contains
      ⟨r.position.e.tdiv 100 - 10 * s.limits.maxExtrusion,
        r.position.e.tdiv 100 + 10 * s.limits.maxExtrusion⟩ (first.after keys).value := by
  have horigin : origin = r.position.e.tdiv 100 := by
    have hadmits := h.admits
    rw [hfield] at hadmits
    exact hadmits.1
  have hfirst : first.value = origin := by
    rw [h.value, hfield, horigin]
    rfl
  have hreach : 0 ≤ s.limits.maxExtrusion := hlimits.maxExtrusion
  have hstart : Bounds.word.Contains (100 * origin) :=
    horigin ▸ Bounds.contains_steps (hr.position .e)
  have hlong : Bounds.halfWord.Contains s.limits.maxExtrusion := hwords.maxExtrusion
  have hbounds : first.bounds =
      ⟨origin - 10 * s.limits.maxExtrusion, origin + 10 * s.limits.maxExtrusion⟩ := by
    simp only [Bounds.Contains, Bounds.halfWord, Bounds.word] at hstart hlong
    rw [h.bounds, hfield]
    simp only [Field.bounds, stepsPerMm]
    rw [Bounds.nearest_eq, Bounds.nearest_eq, Bounds.between_eq, Int.mul_comm]
    · omega
    · constructor <;> simp only [Bounds.word] <;> omega
    · constructor <;> simp only [Bounds.word] <;> omega
  have hcontains : first.bounds.Contains first.value := by
    rw [hbounds, hfirst]
    constructor <;> dsimp only <;> omega
  have hafter := contains_after hcontains keys
  rwa [hbounds, horigin] at hafter

/-- What accepting an edit does is within the limits. -/
theorem Fresh.respects (h : first.Fresh s r) (hlimits : s.limits.Sound)
    (hwords : s.limits.InWords) (hr : r.InWords) {keys : List Key}
    (heffect : (first.after keys).effect = .command c) :
    c.Respects s.limits r keys (first.after keys).value := by
  have hadmits := h.admits
  obtain ⟨field, value, bounds, returnTo, row⟩ := first
  unfold effect at heffect
  rw [after_field] at heffect
  cases field with
  | axis axis =>
    cases heffect
    cases axis with
    | x => exact h.moves rfl hlimits.x hwords.x rfl (hr.position .x) keys
    | y => exact h.moves rfl hlimits.y hwords.y rfl (hr.position .y) keys
    | z => exact h.moves rfl hlimits.z hwords.z rfl (hr.position .z) keys
    | e => exact absurd rfl hadmits
  | extruder origin =>
    cases heffect
    refine ⟨?_, h.extrudes hlimits hwords hr rfl keys⟩
    rw [um, positionUnit, Int.mul_comm]
  | hotend target =>
    cases target with
    | live =>
      cases heffect
      exact h.heats rfl hlimits.hotend hwords.hotend rfl hr.hotend keys
    | preset m => contradiction
  | bed target =>
    cases target with
    | live =>
      cases heffect
      exact h.heats rfl hlimits.bed hwords.bed rfl hr.bed keys
    | preset m => contradiction
  | fan target =>
    cases target with
    | live =>
      cases heffect
      have hpercent (i : Int) : clamp 0 100 i ≤ 100 :=
        Bounds.nearest_le_max (b := ⟨0, 100⟩) (by decide) i
      have hsent := hpercent (after ⟨.fan .live, value, bounds, returnTo, row⟩ keys).value
      exact ⟨rfl, by omega⟩
    | preset m => contradiction
  | printSpeed =>
    cases heffect
    rfl
  | zOffset =>
    cases heffect
    have hends : -s.limits.zOffset ≤ s.limits.zOffset := by
      have := hlimits.zOffset
      omega
    exact ⟨rfl, h.reasonable (Bounds.between_eq hends) hends rfl keys⟩

end Edit

namespace Panel

/-- The command of an edit that is open during a run respects the limits of the run. -/
theorem started_edit_respects {s : Settings} {width height : Nat} {a : Answers}
    {ops before later : List (Operation × Answers)} {e : Edit} {c : Command}
    (hops : ∀ x ∈ ops, x.1 ≠ .start) (hcheck : s.check = .ok ()) (hwords : s.limits.InWords)
    (hreports : ∀ x ∈ (.start, a) :: ops, x.2.Report Status.InWords)
    (hrun : (.start, a) :: ops = before ++ later)
    (he : ((ofSettings s width height).run before).1.edit = some e)
    (heffect : e.effect = .command c) :
    ∃ first r keys, (ofSettings s width height).EditedSince before first r keys ∧
      e = first.after keys ∧ c.Respects s.limits r keys e.value := by
  obtain ⟨first, r, keys, presets, hsince, rfl, hfresh⟩ := started_edit hops hrun he
  have hr : r.InWords := hsince.report hops hrun hreports inWords_atRest
  exact ⟨first, r, keys, hsince, rfl,
    hfresh.respects (Limits.sound_of_check hcheck) hwords hr heffect⟩

/-- Of a run with checked limits, whatever is sent while an edit is open is the command of the edit,
sent by a click, and it respects the limits. -/
theorem run_edits_respect_limits (s : Settings) (width height : Nat) (a : Answers)
    (ops : List (Operation × Answers)) (hops : ∀ x ∈ ops, x.1 ≠ .start)
    (hcheck : s.check = .ok ()) (hwords : s.limits.InWords)
    (hreports : ∀ x ∈ (.start, a) :: ops, x.2.Report Status.InWords) :
    let p := ofSettings s width height
    ∀ before op b later, (.start, a) :: ops = before ++ (op, b) :: later →
      let q := (p.run before).1
      ∀ e, q.edit = some e → ∀ c ∈ submitted (q.perform op b).events,
        q.keyOf op = some .click ∧ e.effect = .command c ∧
          ∃ first r keys, p.EditedSince before first r keys ∧ e = first.after keys ∧
            c.Respects s.limits r keys e.value := by
  intro p before op b later hrun q e he c hc
  obtain ⟨hclick, -, heffect⟩ := ((editSession_of_run hops hrun).mem_submitted_iff he).mp hc
  exact ⟨hclick, heffect, started_edit_respects hops hcheck hwords hreports hrun he heffect⟩

/-- The target of the hotend is turned up by one degree and accepted. -/
theorem respects_limits_hotend :
    let hot := { Status.atRest with hotend := ⟨200, 200⟩ }
    let a := { Answers.smooth with status := fun _ => some hot }
    let ops := [.down, .down, .click, .down, .click, .down, .click, .down].map fun k =>
      (Operation.key k, a)
    let e : Edit := ⟨.hotend .live, 201, ⟨5, 260⟩, .temperature, 1⟩
    (∀ x ∈ ops ++ [(.key .click, a)], x.1 ≠ .start) ∧ Settings.standard.check = .ok () ∧
      Settings.standard.limits.InWords ∧
      (∀ x ∈ (.start, a) :: (ops ++ [(.key .click, a)]), x.2.Report Status.InWords) ∧
      ((ofSettings .standard 240 320).run ((.start, a) :: ops)).1.edit = some e ∧
      .hotendTarget 201 ∈ submitted (((ofSettings .standard 240 320).run
        ((.start, a) :: ops)).1.perform (.key .click) a).events ∧
      ∃ first r keys, (ofSettings .standard 240 320).EditedSince ((.start, a) :: ops) first r keys ∧
        e = first.after keys ∧ (Command.hotendTarget 201).Respects .standard r keys e.value := by
  intro hot a ops e
  have hops : ∀ x ∈ ops ++ [(.key .click, a)], x.1 ≠ .start := by decide
  have hwords : Settings.standard.limits.InWords := inWords_standard_limits
  have hhot : hot.InWords := ⟨by decide, by decide, fun axis => by cases axis <;> decide⟩
  have hreports : ∀ x ∈ (.start, a) :: (ops ++ [(.key .click, a)]), x.2.Report Status.InWords := by
    have hall : ∀ x ∈ (.start, a) :: (ops ++ [(.key .click, a)]), x.2 = a := by simp [ops]
    intro x hx n r hr
    rw [hall x hx] at hr
    cases hr
    exact hhot
  have he : ((ofSettings .standard 240 320).run ((.start, a) :: ops)).1.edit = some e := by
    decide +kernel
  have hc : .hotendTarget 201 ∈ submitted (((ofSettings .standard 240 320).run
      ((.start, a) :: ops)).1.perform (.key .click) a).events := by
    decide +kernel
  obtain ⟨-, -, hhistory⟩ := run_edits_respect_limits .standard 240 320 a
    (ops ++ [(.key .click, a)]) hops rfl hwords hreports ((.start, a) :: ops) (.key .click) a [] rfl
    e he (.hotendTarget 201) hc
  exact ⟨hops, rfl, hwords, hreports, he, hc, hhistory⟩

end Panel

end PrinterPanel
