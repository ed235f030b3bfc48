import PrinterPanel.Proofs.Detents
import PrinterPanel.Proofs.SparedKnob

/-!
# The origin of time

The panel knows the time only from what is passed to it, and keeps it only in the knob: when the
last detent of each direction was, and since when the button is held. Of these it takes differences
only, cut at zero where the clock went back. So a run whose times all lie later by the same amount
shows and sends the same, and goes through the same panels but for the times in their knobs.
-/

namespace PrinterPanel

/-! ### Later times -/

namespace Knob

/-- The knob with the times it remembers moved to later. -/
def later (d : Nat) (k : Knob) : Knob :=
  { k with
    lastCw := k.lastCw.map (· + d)
    lastCcw := k.lastCcw.map (· + d)
    pressedAt := k.pressedAt.map (· + d) }

/-- What was not long ago was not long ago. -/
theorem any_later (last : Option Nat) (now rate d : Nat) :
    (last.map (· + d)).any (now + d - · < rate) = last.any (now - · < rate) := by
  cases last with
  | none => rfl
  | some before => simp [Nat.add_sub_add_right]

/-- A detent at a later time gives the same key to a knob with later times. -/
theorem rotate_later (k : Knob) (r : Rotation) (now d : Nat) :
    (k.later d).rotate r (now + d) = ((k.rotate r now).1, (k.rotate r now).2.later d) := by
  cases r with
  | cw =>
    have hfast : (k.later d).lastCw.any (now + d - · < (k.later d).fastRateMs) =
        k.lastCw.any (now - · < k.fastRateMs) := any_later k.lastCw now k.fastRateMs d
    rw [rotate, hfast]
    rfl
  | ccw =>
    have hfast : (k.later d).lastCcw.any (now + d - · < (k.later d).fastRateMs) =
        k.lastCcw.any (now - · < k.fastRateMs) := any_later k.lastCcw now k.fastRateMs d
    rw [rotate, hfast]
    rfl

/-- Neither the phases nor the count of their transitions have to do with the time. -/
theorem sample_later (k : Knob) (a b : Bool) (now d : Nat) :
    (k.later d).sample a b (now + d) = ((k.sample a b now).1, (k.sample a b now).2.later d) := by
  have hdetent : (k.later d).detentAt (a, b) = k.detentAt (a, b) := rfl
  have hcount : (k.later d).countAt (a, b) = k.countAt (a, b) := rfl
  rw [sample_eq, sample_eq, hdetent, hcount]
  cases k.detentAt (a, b) with
  | none => rfl
  | some r =>
    have hturned := (k.recount (a, b) 0).rotate_later r now d
    exact congrArg (fun turned : Key × Knob => (some turned.1, turned.2)) hturned

/-- A button at a later time gives the same key to a knob with later times. -/
theorem button_later (k : Knob) (down : Bool) (now d : Nat) :
    (k.later d).button down (now + d) = ((k.button down now).1, (k.button down now).2.later d) := by
  cases down with
  | true => rfl
  | false =>
    have hheld : (k.later d).pressedAt.isSome = k.pressedAt.isSome := Option.isSome_map
    simp only [button, hheld]
    rfl

/-- A look at the clock at a later time gives the same key to a knob with later times. -/
theorem poll_later (k : Knob) (now d : Nat) :
    (k.later d).poll (now + d) = ((k.poll now).1, (k.poll now).2.later d) := by
  cases hheld : k.pressedAt with
  | none => simp [poll, later, hheld]
  | some since =>
    simp only [poll, later, hheld, Option.map_some, Nat.add_sub_add_right]
    split <;> simp [hheld]

end Knob

/-- The operation at a later time. -/
def Operation.later (d : Nat) : Operation → Operation
  | rotate r now => rotate r (now + d)
  | sample a b now => sample a b (now + d)
  | button down now => button down (now + d)
  | poll now => poll (now + d)
  | tick now => tick (now + d)
  | start => start
  | key k => key k
  | message text => message text
  | iconFinder => iconFinder

/-- A run at later times, with the same answers. -/
def laterRun (d : Nat) (ops : List (Operation × Answers)) : List (Operation × Answers) :=
  ops.map fun x => (x.1.later d, x.2)

/-- Apart from the knob, an operation does the same at a later time. -/
theorem Operation.rest_later (op : Operation) (d : Nat) : (op.later d).rest = op.rest := by
  cases op <;> rfl

/-- Every operation at a later time gives the same key to a knob with later times. -/
theorem Knob.decode_later (k : Knob) (op : Operation) (d : Nat) :
    (k.later d).decode (op.later d) = ((k.decode op).1, (k.decode op).2.later d) := by
  cases op with
  | rotate r now => simp only [decode, Operation.later, rotate_later]
  | sample a b now => exact k.sample_later a b now d
  | button down now => exact k.button_later down now d
  | poll now => exact k.poll_later now d
  | tick now => exact k.poll_later now d
  | start | key | message | iconFinder => rfl

/-! ### Runs -/

namespace Panel

/-- The panel with the times that its knob remembers moved to later. -/
def later (d : Nat) (p : Panel) : Panel := p.withKnob (p.knob.later d)

/-- An operation at a later time, on a panel with later times, shows and sends the same. -/
theorem perform_later (p : Panel) (op : Operation) (a : Answers) (d : Nat) :
    ((p.later d).perform (op.later d) a).panel = (p.perform op a).panel.later d ∧
      ((p.later d).perform (op.later d) a).events = (p.perform op a).events := by
  have hdecode := p.knob.decode_later op d
  have hkey : ((p.knob.later d).decode (op.later d)).1 = (p.knob.decode op).1 := by rw [hdecode]
  rw [later, p.perform_withKnob (op.rest_later d) hkey a, hdecode, later, p.perform_knob]
  exact ⟨rfl, rfl⟩

/-- A run at later times gives the same events, and panels that remember later times. -/
theorem run_laterRun (p : Panel) (ops : List (Operation × Answers)) (d : Nat) :
    (p.later d).run (laterRun d ops) = ((p.run ops).1.later d, (p.run ops).2) := by
  induction ops generalizing p with
  | nil => rfl
  | cons x rest ih =>
    obtain ⟨hpanel, hevents⟩ := p.perform_later x.1 x.2 d
    have hrest := ih (p.perform x.1 x.2).panel
    simp only [laterRun, List.map_cons, run] at hrest ⊢
    rw [hpanel, hevents, hrest]

/-- The panel does not depend on the origin of time. After every operation of a run at later times,
the panel is the one of the run itself except for the times in its knob, and what was drawn and sent
is the same. -/
theorem run_later (s : Settings) (width height d : Nat) (ops : List (Operation × Answers))
    (n : Nat) :
    let plain := (ofSettings s width height).run (ops.take n)
    let moved := (ofSettings s width height).run ((laterRun d ops).take n)
    moved.1 = { plain.1 with knob := plain.1.knob.later d } ∧ moved.2 = plain.2 := by
  intro plain moved
  have hstart : (ofSettings s width height).later d = ofSettings s width height := rfl
  have htake : (laterRun d ops).take n = laterRun d (ops.take n) := List.map_take.symm
  have hmoved : moved = (plain.1.later d, plain.2) := by
    calc moved = ((ofSettings s width height).later d).run (laterRun d (ops.take n)) := by
          rw [hstart, ← htake]
      _ = (plain.1.later d, plain.2) := run_laterRun _ _ d
  rw [hmoved]
  exact ⟨rfl, rfl⟩

end Panel

end PrinterPanel
