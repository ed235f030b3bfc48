/-!
# Rounding to binary floating point

A binary format keeps the numbers `mantissa * 2 ^ exponent` whose mantissa has a bounded number of
bits and whose exponent is bounded below. `Format.nearest` rounds an exact fraction to such a
number; of two neighbours that are equally near it takes the one with the even mantissa.
-/

namespace PrinterPanel.Numeric

/-- The number `mantissa * 2 ^ exponent`. -/
structure Scaled where
  /-- The integer factor. -/
  mantissa : Nat
  /-- The power of two. -/
  exponent : Int
  deriving DecidableEq, Repr

/-- A scaled number as a fraction: numerator and denominator. -/
def Scaled.fraction (s : Scaled) : Nat × Nat :=
  (s.mantissa <<< s.exponent.toNat, 1 <<< (-s.exponent).toNat)

/-- A binary floating-point format. -/
structure Format where
  /-- Bits of the mantissa. -/
  precision : Nat
  /-- The smallest exponent. -/
  minExponent : Int
  /-- The numbers of the format lie below two to this power. -/
  limit : Int

/-- Numbers of 32 bits. -/
def single : Format := ⟨24, -149, 128⟩

/-- Numbers of 64 bits. -/
def double : Format := ⟨53, -1074, 1024⟩

/-- The integer part of the binary logarithm of a positive fraction. -/
def log2Fraction (num den : Nat) : Int :=
  let guess : Int := (Nat.log2 num : Int) - (Nat.log2 den : Int)
  let fitsGuess :=
    if 0 ≤ guess then den <<< guess.toNat ≤ num else den ≤ num <<< (-guess).toNat
  if fitsGuess then guess else guess - 1

/-- The integer nearest to a fraction; a half goes to the even neighbour. -/
def divideToEven (num den : Nat) : Nat :=
  let q := num / den
  let r := num % den
  if den < 2 * r ∨ (den = 2 * r ∧ q % 2 = 1) then q + 1 else q

/-- The integer nearest to a fraction; a half goes up. -/
def divideHalfUp (num den : Nat) : Nat :=
  (2 * num + den) / (2 * den)

namespace Format

/-- The number of the format that is nearest to a fraction, if the format had no upper limit. -/
def nearest (f : Format) (num den : Nat) : Scaled :=
  if num = 0 then ⟨0, f.minExponent⟩
  else
    let e := max f.minExponent (log2Fraction num den - (f.precision - 1))
    ⟨divideToEven (num <<< (-e).toNat) (den <<< e.toNat), e⟩

/-- Whether a number lies at or above the limit of the format. -/
def exceededBy (f : Format) (s : Scaled) : Bool :=
  s.mantissa != 0 && f.limit ≤ s.exponent + (Nat.log2 s.mantissa : Int)

end Format

end PrinterPanel.Numeric
