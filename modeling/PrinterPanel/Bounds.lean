/-!
# Ranges of integers

The values between two ends, both included. Numbers that are kept in words of a fixed width have
such a range, and a value that would leave its range stops at the end.
-/

namespace PrinterPanel

/-- The integer of a range that is nearest to `i`. -/
def clamp (low high i : Int) : Int := max low (min high i)

/-- The range of values from `min` to `max`. -/
structure Bounds where
  /-- The lower end. -/
  min : Int
  /-- The upper end. -/
  max : Int
  deriving DecidableEq, Repr, Inhabited

namespace Bounds

/-- The range between two ends, given in any order. -/
def between (a b : Int) : Bounds := if a ≤ b then ⟨a, b⟩ else ⟨b, a⟩

/-- The value of the range that is nearest to `i`. -/
def nearest (b : Bounds) (i : Int) : Int := clamp b.min b.max i

/-- An integer, if it lies in the range. -/
def narrow? (b : Bounds) (i : Int) : Option Int :=
  if b.min ≤ i ∧ i ≤ b.max then some i else none

/-- The ends of a range between two numbers are in order. -/
theorem between_min_le_max (a b : Int) : (between a b).min ≤ (between a b).max := by
  unfold between
  split
  · assumption
  · show b ≤ a
    omega

/-- The nearest value is not below the range, even if the ends are out of order. -/
theorem min_le_nearest (b : Bounds) (i : Int) : b.min ≤ b.nearest i :=
  Int.le_max_left _ _

/-- The nearest value is not above the range if the ends are in order. -/
theorem nearest_le_max {b : Bounds} (h : b.min ≤ b.max) (i : Int) : b.nearest i ≤ b.max :=
  Int.max_le.mpr ⟨h, Int.min_le_left _ _⟩

/-- A value of the range is nearest to itself. -/
theorem nearest_eq_self {b : Bounds} {i : Int} (hmin : b.min ≤ i) (hmax : i ≤ b.max) :
    b.nearest i = i := by
  unfold nearest clamp
  rw [Int.min_eq_right hmax, Int.max_eq_right hmin]

/-- An integer is taken exactly if it lies in the range, and it is taken as it is. -/
theorem narrow?_eq_some_iff {b : Bounds} {i j : Int} :
    b.narrow? i = some j ↔ i = j ∧ b.min ≤ i ∧ i ≤ b.max := by
  unfold narrow?
  constructor
  · intro h
    split at h
    · next hi => exact ⟨Option.some.inj h, hi⟩
    · exact absurd h (by simp)
  · rintro ⟨rfl, hi⟩
    exact if_pos hi

/-- Signed words of 32 bits. -/
def word : Bounds := ⟨-0x80000000, 0x7FFFFFFF⟩

/-- Words of 64 bits, with a sign or without one. -/
def longWord : Bounds := ⟨-0x8000000000000000, 0xFFFFFFFFFFFFFFFF⟩

/-- Signed words of 16 bits. -/
def halfWord : Bounds := ⟨-0x8000, 0x7FFF⟩

/-- Numbers of eight bits. -/
def byte : Bounds := ⟨0, 0xFF⟩

/-- The largest number of a counter of 32 bits. -/
def counterLimit : Nat := 0xFFFFFFFF

/-- Counters of 32 bits. -/
def counter : Bounds := ⟨0, counterLimit⟩

end Bounds

end PrinterPanel
