import PrinterPanel.Numeric.Single

/-!
# Shortest decimal text of a number

Among the decimal numbers that read back as a given number of 32 bits, the ones with the fewest
digits are looked for, and of these the nearest is taken. The decimal grids with one, two, three
digits and so on are tried in turn, each at its two points beside the number.
-/

namespace PrinterPanel.Numeric

/-- The fractions that read back as one number: the interval from `low` to `high` around `value`,
all over one denominator. The ends belong to it if `closed`. -/
structure Interval where
  /-- Numerator of the lower end. -/
  low : Nat
  /-- Numerator of the number itself. -/
  value : Nat
  /-- Numerator of the upper end. -/
  high : Nat
  /-- The denominator. -/
  den : Nat
  /-- Whether the ends read back as the number, too. -/
  closed : Bool

namespace Interval

/-- The fractions that are rounded to a positive number of 32 bits. -/
def ofScaled (s : Scaled) : Interval :=
  let shift := (s.exponent - 2).toNat
  let lower :=
    if s.mantissa = 0x800000 ∧ single.minExponent < s.exponent then 4 * s.mantissa - 1
    else 4 * s.mantissa - 2
  ⟨lower <<< shift, (4 * s.mantissa) <<< shift, (4 * s.mantissa + 2) <<< shift,
    1 <<< (2 - s.exponent).toNat, s.mantissa % 2 = 0⟩

/-- Whether `c * 10 ^ k` lies in the interval. -/
def contains (i : Interval) (c : Nat) (k : Int) : Bool :=
  let x := c * powerOfTen k.toNat * i.den
  let scale := powerOfTen (-k).toNat
  if i.closed then i.low * scale ≤ x && x ≤ i.high * scale
  else i.low * scale < x && x < i.high * scale

/-- The power of ten at or below the number, at least ten to the power `-bound`. -/
def magnitude (i : Interval) : Nat → Int
  | 0 => if i.value < i.den then 0 else ((Nat.toDigits 10 (i.value / i.den)).length : Int) - 1
  | bound + 1 =>
    if i.den ≤ i.value then ((Nat.toDigits 10 (i.value / i.den)).length : Int) - 1
    else
      magnitude { i with low := i.low * 10, value := i.value * 10, high := i.high * 10 } bound - 1

/-- The point of the grid `10 ^ k` that reads back and is nearest to the number. -/
def onGrid (i : Interval) (k : Int) : Option Nat :=
  let num := i.value * powerOfTen (-k).toNat
  let den := i.den * powerOfTen k.toNat
  let below := num / den
  match i.contains below k, i.contains (below + 1) k with
  | false, false => none
  | true, false => some below
  | false, true => some (below + 1)
  | true, true => some (divideToEven num den)

/-- Try the grids with `digits` digits and more, at most `tries` of them. A number just below a
power of ten may be nearest to that power, which has one digit more than its grid and ends in a
zero. -/
def search (i : Interval) (magnitude : Int) (digits : Nat) : Nat → Nat × Int
  | 0 => (i.value / i.den, 0)
  | tries + 1 =>
    let k := magnitude + 1 - digits
    match i.onGrid k with
    | some c => if c % 10 = 0 then (c / 10, k + 1) else (c, k)
    | none => search i magnitude (digits + 1) tries

end Interval

/-- Digits that always suffice for a number of 32 bits. -/
def singleDigits : Nat := 9

/-- Digits and power of ten of the shortest decimal that reads back as a positive number. -/
def shortest (s : Scaled) : Nat × Int :=
  let i := Interval.ofScaled s
  i.search (i.magnitude 50) 1 singleDigits

end PrinterPanel.Numeric
