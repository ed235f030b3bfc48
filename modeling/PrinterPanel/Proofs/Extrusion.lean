import PrinterPanel.Proofs.Acceptance

/-!
# Moving the extruder

The extruder is not to be moved while it is too cold. The temperature is looked at once, when the
edit of its position is opened. The click that accepts the edit sends the move whatever the printer
reports by then, so an extruder that was warm may be cold when it is moved.
-/

namespace PrinterPanel.Panel

/-- The position of the extruder is edited. -/
def MovesExtruder (p : Panel) : Prop := ∃ e origin, p.edit = some e ∧ e.field = .extruder origin

variable {p : Panel} {op : Operation} {a : Answers} {um : Int} {speed : Nat}

/-- Without an edit no axis is moved. -/
theorem EditSession.edit_of_moveAxis (h : p.EditSession) {axis : Axis}
    (hc : .moveAxis axis um speed ∈ submitted (p.perform op a).events) :
    ∃ e, p.edit = some e := by
  have hcommand := (p.submitted_prefix op a).subset hc
  have heditor : p.screen.isEditor = true := by
    unfold commandsOf at hcommand
    cases hk : p.keyOf op with
    | none =>
      rw [hk] at hcommand
      contradiction
    | some k =>
      rw [hk, Option.elim_some] at hcommand
      exact sends_of_mem hcommand
  cases he : p.edit with
  | none =>
    rw [(h.closed he).1] at heditor
    contradiction
  | some e => exact ⟨e, rfl⟩

/-- The extruder is moved by the edit of its own position, or by that of an axis that it is not. -/
theorem field_of_effect {e : Edit} {axis : Axis}
    (h : e.effect = .command (.moveAxis axis um speed)) :
    e.field = .axis axis ∨ axis = .e ∧ ∃ origin, e.field = .extruder origin := by
  unfold Edit.effect at h
  split at h <;> cases h
  · next hfield => exact .inl hfield
  · next hfield => exact .inr ⟨rfl, _, hfield⟩

/-- The extruder is moved by a click that accepts the edit of its position, and if the settled value
can be shown this always moves it, whatever the printer reports. The edit was opened with a report
by which the extruder was not too cold. -/
theorem run_extrudes_iff (s : Settings) (width height : Nat) (a : Answers)
    (ops : List (Operation × Answers)) (hops : ∀ x ∈ ops, x.1 ≠ .start) :
    let p := ofSettings s width height
    ∀ before op b later, (.start, a) :: ops = before ++ (op, b) :: later →
      let q := (p.run before).1
      ((∃ um speed, .moveAxis .e um speed ∈ submitted (q.perform op b).events) ↔
        q.keyOf op = some .click ∧ q.ShowsSettled b ∧ q.MovesExtruder) ∧
      (q.MovesExtruder →
        ∃ first r keys, p.EditedSince before first r keys ∧ ¬ s.TooCold r) := by
  intro p before op b later hrun q
  have hsession : q.EditSession := editSession_of_run hops hrun
  have hhistory (e : Edit) (he : q.edit = some e) :
      ∃ first r keys, p.EditedSince before first r keys ∧ e.field.Admits s r := by
    obtain ⟨first, r, keys, presets, hsince, rfl, hfresh⟩ := started_edit hops hrun he
    refine ⟨first, r, keys, hsince, ?_⟩
    rw [Edit.after_field]
    exact hfresh.admits
  constructor
  · constructor
    · rintro ⟨um, speed, hc⟩
      obtain ⟨e, he⟩ := hsession.edit_of_moveAxis hc
      obtain ⟨hclick, hshown, heffect⟩ := (hsession.mem_submitted_iff he).mp hc
      refine ⟨hclick, hshown, e, ?_⟩
      obtain haxis | ⟨-, origin, hfield⟩ := field_of_effect heffect
      · -- The extruder is never opened as an axis.
        obtain ⟨_, _, _, -, hadmits⟩ := hhistory e he
        rw [haxis] at hadmits
        exact absurd rfl hadmits
      · exact ⟨origin, he, hfield⟩
    · rintro ⟨hclick, hshown, e, origin, he, hfield⟩
      refine ⟨e.um, Axis.e.feedrate, (hsession.mem_submitted_iff he).mpr ⟨hclick, hshown, ?_⟩⟩
      simp only [Edit.effect, hfield]
  · rintro ⟨e, origin, he, hfield⟩
    obtain ⟨first, r, keys, hsince, hadmits⟩ := hhistory e he
    rw [hfield] at hadmits
    exact ⟨first, r, keys, hsince, hadmits.2⟩

/-- The extruder is moved after it was opened warm. -/
theorem extrudes_warm :
    let warm := { Status.atRest with hotend := ⟨200, 200⟩ }
    let a := { Answers.smooth with status := fun _ => some warm }
    let ops := [.down, .click, .down, .click, .down, .down, .down, .down, .click].map fun k =>
      (Operation.key k, a)
    (∀ x ∈ ops ++ [(.key .click, a)], x.1 ≠ .start) ∧
      (∃ um speed, .moveAxis .e um speed ∈ submitted (((ofSettings .standard 240 320).run
        ((.start, a) :: ops)).1.perform (.key .click) a).events) ∧
      ∃ first r keys, (ofSettings .standard 240 320).EditedSince ((.start, a) :: ops) first r keys ∧
        ¬ Settings.standard.TooCold r := by
  intro warm a ops
  have hops : ∀ x ∈ ops ++ [(.key .click, a)], x.1 ≠ .start := by decide
  have hmoved : .moveAxis .e 0 300 ∈ submitted (((ofSettings .standard 240 320).run
      ((.start, a) :: ops)).1.perform (.key .click) a).events := by
    decide +kernel
  obtain ⟨hmoves, hwarm⟩ := run_extrudes_iff .standard 240 320 a (ops ++ [(.key .click, a)]) hops
    ((.start, a) :: ops) (.key .click) a [] rfl
  obtain ⟨-, -, hopen⟩ := hmoves.mp ⟨0, 300, hmoved⟩
  exact ⟨hops, ⟨0, 300, hmoved⟩, hwarm hopen⟩

/-- The extruder is moved cold: it was warm when the edit was opened, and by the click the hotend
has cooled down. -/
theorem extrudes_cold :
    let reporting (celsius : Int) : Answers :=
      { Answers.smooth with
        status := fun _ => some { Status.atRest with hotend := ⟨celsius, 0⟩ } }
    let ops := [.down, .click, .down, .click, .down, .down, .down, .down, .click].map fun k =>
      (Operation.key k, reporting 200)
    Settings.standard.features.coldGuard = true ∧ Settings.standard.limits.minExtrudeTemp = 170 ∧
      .moveAxis .e 0 300 ∈ submitted (((ofSettings .standard 240 320).run
        ((.start, reporting 200) :: ops)).1.perform (.key .click) (reporting 20)).events := by
  intro reporting ops
  exact ⟨rfl, rfl, by decide +kernel⟩

end PrinterPanel.Panel
