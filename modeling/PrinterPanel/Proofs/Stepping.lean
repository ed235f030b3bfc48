import PrinterPanel.Edit

/-!
# Stepping through the values of an edit

A turn of the knob changes the value of an edit by one or by ten. The value stops at the ends of
its range and of the words in which it is kept, and so two turns that stop there come to the same as
one longer turn in their direction. Turning fast therefore leads where ten slow turns lead, from
each value that lies in the range.
-/

namespace PrinterPanel

namespace Bounds

variable {b : Bounds} {i : Int}

/-- A value lies in a range. -/
def Contains (b : Bounds) (i : Int) : Prop := b.min ≤ i ∧ i ≤ b.max

instance (b : Bounds) (i : Int) : Decidable (b.Contains i) := inferInstanceAs (Decidable (_ ∧ _))

/-- The nearest value of a range that is not empty lies in the range. -/
theorem contains_nearest (h : b.min ≤ b.max) (i : Int) : b.Contains (b.nearest i) :=
  ⟨b.min_le_nearest i, nearest_le_max h i⟩

/-- A value of a range is the nearest to itself. -/
theorem nearest_eq (h : b.Contains i) : b.nearest i = i := nearest_eq_self h.1 h.2

/-- Going to one range and then to another is going to a single range. -/
theorem nearest_nearest {w : Bounds} (hb : b.min ≤ b.max) (hw : w.min ≤ w.max) (i : Int) :
    b.nearest (w.nearest i) = nearest ⟨b.nearest w.min, b.nearest w.max⟩ i := by
  simp only [nearest, clamp]
  omega

/-- Two steps in one direction that stop at the end of a range come to the same as one step. -/
theorem nearest_nearest_add (hi : b.Contains i) {first second : Int}
    (hdirection : 0 ≤ first ∧ 0 ≤ second ∨ first ≤ 0 ∧ second ≤ 0) :
    b.nearest (b.nearest (i + first) + second) = b.nearest (i + first + second) := by
  simp only [nearest, clamp, Contains] at *
  obtain ⟨hfirst, hsecond⟩ | ⟨hfirst, hsecond⟩ := hdirection <;> omega

end Bounds

/-- The range of a field is not empty. -/
theorem Field.bounds_min_le_max (f : Field) (l : Limits) : (f.bounds l).min ≤ (f.bounds l).max := by
  unfold bounds
  split <;> first | exact Bounds.between_min_le_max _ _ | decide

/-- The symbols that change nothing are those that are no turns. -/
theorem Symbol.amount_eq_zero_iff {s : Symbol} : s.amount = 0 ↔ s.isTurn = false := by
  cases s <;> decide

namespace Edit

variable {e : Edit} {s : Symbol}

/-! ### One turn -/

/-- Turning changes nothing of an edit but its value. -/
theorem turn_eq (e : Edit) (s : Symbol) : e.turn s = { e with value := (e.turn s).value } := by
  unfold turn apply
  split <;> rfl

/-- A turn leaves the range of the edit. -/
theorem turn_bounds (e : Edit) (s : Symbol) : (e.turn s).bounds = e.bounds := by
  rw [turn_eq]

/-- A symbol that is no turn leaves the edit as it is. -/
theorem turn_of_isTurn_eq_false (e : Edit) (h : s.isTurn = false) : e.turn s = e := by
  rw [turn, apply, if_pos (Symbol.amount_eq_zero_iff.mpr h)]

/-- The values that a turn can lead to: the range, as far as words go. -/
def reach (e : Edit) : Bounds :=
  ⟨e.bounds.nearest Bounds.word.min, e.bounds.nearest Bounds.word.max⟩

/-- A turn leaves the values that turns can lead to. -/
theorem turn_reach (e : Edit) (s : Symbol) : (e.turn s).reach = e.reach := by
  rw [turn_eq]
  rfl

/-- There is a value that turns can lead to. -/
theorem reach_min_le_max (e : Edit) : e.reach.min ≤ e.reach.max := by
  simp only [reach, Bounds.nearest, clamp, Bounds.word]
  omega

/-- A turn can lead to any value of the range that is in a word. -/
theorem contains_reach (h : e.bounds.Contains e.value) (hword : Bounds.word.Contains e.value) :
    e.reach.Contains e.value := by
  simp only [Bounds.Contains, reach, Bounds.nearest, clamp] at *
  omega

/-- A turn leads to values of the range only. -/
theorem contains_of_reach (h : e.bounds.min ≤ e.bounds.max) {v : Int} (hv : e.reach.Contains v) :
    e.bounds.Contains v := by
  simp only [Bounds.Contains, reach, Bounds.nearest, clamp] at *
  omega

/-- A turn leads to the value that it would lead to, or to the nearest that turns can lead to. -/
theorem value_turn (h : e.bounds.min ≤ e.bounds.max) (hturn : s.isTurn = true) :
    (e.turn s).value = e.reach.nearest (e.value + s.amount) := by
  have hamount : s.amount ≠ 0 := by simp [Symbol.amount_eq_zero_iff, hturn]
  rw [turn, apply, if_neg hamount]
  exact Bounds.nearest_nearest h (by decide) _

/-- A turn leads to a value that turns can lead to. -/
theorem contains_turn (h : e.bounds.min ≤ e.bounds.max) (hturn : s.isTurn = true) :
    e.reach.Contains (e.turn s).value := by
  rw [value_turn h hturn]
  exact Bounds.contains_nearest e.reach_min_le_max _

/-! ### One turn after the other -/

/-- The edit after one symbol after the other. -/
def stepped (e : Edit) (symbols : List Symbol) : Edit := symbols.foldl turn e

/-- Symbols take effect one after the other. -/
theorem stepped_append (e : Edit) (first second : List Symbol) :
    e.stepped (first ++ second) = (e.stepped first).stepped second :=
  List.foldl_append

/-- Symbols change nothing of an edit but its value. -/
theorem stepped_eq (e : Edit) (symbols : List Symbol) :
    e.stepped symbols = { e with value := (e.stepped symbols).value } := by
  induction symbols generalizing e with
  | nil => rfl
  | cons s rest ih =>
    have hrest : e.stepped (s :: rest) = (e.turn s).stepped rest := rfl
    rw [hrest, ih, turn_eq e]

/-- Symbols that are no turns leave the edit as it is. -/
theorem stepped_of_unturned (e : Edit) {symbols : List Symbol}
    (h : ∀ s ∈ symbols, s.isTurn = false) : e.stepped symbols = e := by
  induction symbols with
  | nil => rfl
  | cons s rest ih =>
    have hrest : e.stepped (s :: rest) = (e.turn s).stepped rest := rfl
    rw [hrest, e.turn_of_isTurn_eq_false (h s List.mem_cons_self)]
    exact ih fun s hs => h s (List.mem_cons_of_mem _ hs)

/-- An edit with a value that a turn could have led to. -/
structure InReach (e : Edit) : Prop where
  bounds : e.bounds.min ≤ e.bounds.max
  value : e.reach.Contains e.value

/-- After a turn, the value is one that a turn has led to. -/
theorem inReach_turn (h : e.bounds.min ≤ e.bounds.max) (hturn : s.isTurn = true) :
    (e.turn s).InReach :=
  ⟨(e.turn_bounds s).symm ▸ h, (e.turn_reach s).symm ▸ contains_turn h hturn⟩

/-- A value that a turn could have led to stays one with every symbol. -/
theorem InReach.turn (h : e.InReach) (s : Symbol) : (e.turn s).InReach := by
  cases hturn : s.isTurn with
  | true => exact inReach_turn h.bounds hturn
  | false => rwa [e.turn_of_isTurn_eq_false hturn]

/-- A value that a turn could have led to stays one with all symbols. -/
theorem InReach.stepped (h : e.InReach) (symbols : List Symbol) : (e.stepped symbols).InReach := by
  induction symbols generalizing e with
  | nil => exact h
  | cons s rest ih => exact ih (h.turn s)

/-- A single turn among the symbols is enough. -/
theorem inReach_stepped (h : e.bounds.min ≤ e.bounds.max) {symbols : List Symbol}
    (hturn : ∃ s ∈ symbols, s.isTurn = true) : (e.stepped symbols).InReach := by
  obtain ⟨s, hs, hturn⟩ := hturn
  obtain ⟨before, later, rfl⟩ := List.append_of_mem hs
  have hbefore : (e.stepped before).bounds = e.bounds := by rw [stepped_eq]
  rw [stepped_append]
  exact (inReach_turn (hbefore.symm ▸ h) hturn).stepped later

/-- Turned at all, a value lies in the range of the edit. -/
theorem contains_stepped_of_turn (h : e.bounds.min ≤ e.bounds.max) {symbols : List Symbol}
    (hturn : ∃ s ∈ symbols, s.isTurn = true) : e.bounds.Contains (e.stepped symbols).value := by
  have hreach := inReach_stepped h hturn
  have hcontains := contains_of_reach hreach.bounds hreach.value
  rwa [stepped_eq] at hcontains

/-! ### Slow turns for a fast one -/

/-- Several turns of one kind come to the same as one turn by their sum. -/
theorem InReach.value_replicate (h : e.InReach) (hturn : s.isTurn = true) (n : Nat) :
    (e.stepped (List.replicate n s)).value = e.reach.nearest (e.value + n * s.amount) := by
  induction n generalizing e with
  | zero =>
    rw [Int.natCast_zero, Int.zero_mul, Int.add_zero, Bounds.nearest_eq h.value]
    rfl
  | succ n ih =>
    have hdirection : 0 ≤ s.amount ∧ 0 ≤ n * s.amount ∨ s.amount ≤ 0 ∧ n * s.amount ≤ 0 := by
      cases s <;> simp only [Symbol.amount] <;> omega
    have hsum : e.value + s.amount + n * s.amount = e.value + (n + 1 : Nat) * s.amount := by
      rw [Int.natCast_add, Int.add_mul]
      omega
    calc
      (e.stepped (List.replicate (n + 1) s)).value
      _ = ((e.turn s).stepped (List.replicate n s)).value := rfl
      _ = e.reach.nearest ((e.turn s).value + n * s.amount) := by rw [ih (h.turn s), turn_reach]
      _ = e.reach.nearest (e.reach.nearest (e.value + s.amount) + n * s.amount) := by
        rw [value_turn h.bounds hturn]
      _ = e.reach.nearest (e.value + (n + 1 : Nat) * s.amount) := by
        rw [Bounds.nearest_nearest_add h.value hdirection, hsum]

/-- A fast turn comes to the same as ten slow ones. -/
theorem InReach.turn_fast (h : e.InReach) {slow : Symbol} (hturn : s.isTurn = true)
    (hslow : slow.isTurn = true) (hamount : s.amount = 10 * slow.amount) :
    e.turn s = e.stepped (List.replicate 10 slow) := by
  rw [turn_eq, stepped_eq e (List.replicate 10 slow), value_turn h.bounds hturn,
    h.value_replicate hslow, hamount]
  rfl

/-- Ten slow turns in place of some of the fast ones. -/
inductive Slows : List Symbol → List Symbol → Prop
  /-- There is no symbol left. -/
  | done : Slows [] []
  /-- A symbol that stays as it is. -/
  | keep (s : Symbol) {rest slower : List Symbol} (later : Slows rest slower) :
    Slows (s :: rest) (s :: slower)
  /-- A fast turn clockwise. -/
  | cw {rest slower : List Symbol} (later : Slows rest slower) :
    Slows (.fastCw :: rest) (List.replicate 10 .cw ++ slower)
  /-- A fast turn counter-clockwise. -/
  | ccw {rest slower : List Symbol} (later : Slows rest slower) :
    Slows (.fastCcw :: rest) (List.replicate 10 .ccw ++ slower)

/-- Within its reach, an edit does not tell fast turns from slow ones. -/
theorem InReach.stepped_of_slows {symbols slower : List Symbol} (hslows : Slows symbols slower)
    (h : e.InReach) : e.stepped symbols = e.stepped slower := by
  induction hslows generalizing e with
  | done => rfl
  | keep s later ih => exact ih (h.turn s)
  | cw later ih =>
    rw [stepped_append, ← h.turn_fast (s := .fastCw) rfl rfl rfl]
    exact ih (h.turn .fastCw)
  | ccw later ih =>
    rw [stepped_append, ← h.turn_fast (s := .fastCcw) rfl rfl rfl]
    exact ih (h.turn .fastCcw)

/-! ### Stepping -/

/-- Whatever the symbols are, an edit keeps its first value until a turn, and lies in the range of
its field from then on; each symbol tells whether it changed the value; and once there was a turn,
or if the first value was in the range, turning fast comes to the same as turning slowly. -/
theorem start_stepped (field : Field) (limits : Limits) {initial : Int}
    (hinitial : Bounds.word.Contains initial) (returnTo : Screen) (row : Nat)
    (symbols : List Symbol) :
    let e := (start field initial limits returnTo row).stepped symbols
    ((∀ s ∈ symbols, s.isTurn = false) → e.value = initial) ∧
      ((∃ s ∈ symbols, s.isTurn = true) → (field.bounds limits).Contains e.value) ∧
      (∀ s, (e.apply s).1 = true ↔ (e.apply s).2.value ≠ e.value) ∧
      ((∃ s ∈ symbols, s.isTurn = true) ∨ (field.bounds limits).Contains initial →
        ∀ later slower, Slows later slower →
          (e.stepped later).value = (e.stepped slower).value) := by
  intro e
  let first := start field initial limits returnTo row
  have hends : first.bounds.min ≤ first.bounds.max := field.bounds_min_le_max limits
  refine ⟨fun hunturned => ?_, contains_stepped_of_turn hends, e.apply_fst_iff,
    fun hwithin later slower hslows => ?_⟩
  · exact congrArg value (first.stepped_of_unturned hunturned)
  · have hreach : e.InReach := by
      obtain hturn | hcontains := hwithin
      · exact inReach_stepped hends hturn
      · have hfirst : first.InReach := ⟨hends, contains_reach hcontains hinitial⟩
        exact hfirst.stepped symbols
    rw [hreach.stepped_of_slows hslows]

/-- At the end of the words, with a range that has no end before. -/
theorem start_stepped_printSpeed :
    Bounds.word.Contains 0x7FFFFFF0 ∧
      let e := (start .printSpeed 0x7FFFFFF0 .standard .tune 1).stepped [.cw, .fastCw]
      ((∀ s ∈ [Symbol.cw, .fastCw], s.isTurn = false) → e.value = 0x7FFFFFF0) ∧
      ((∃ s ∈ [Symbol.cw, .fastCw], s.isTurn = true) →
        (Field.printSpeed.bounds .standard).Contains e.value) ∧
      (∀ s, (e.apply s).1 = true ↔ (e.apply s).2.value ≠ e.value) ∧
      ((∃ s ∈ [Symbol.cw, .fastCw], s.isTurn = true) ∨
          (Field.printSpeed.bounds .standard).Contains 0x7FFFFFF0 →
        ∀ later slower, Slows later slower →
          (e.stepped later).value = (e.stepped slower).value) :=
  ⟨by decide, start_stepped .printSpeed .standard (by decide) .tune 1 [.cw, .fastCw]⟩

end Edit

end PrinterPanel
