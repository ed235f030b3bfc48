import PrinterPanel.Numeric.Binary

/-!
# Decimal numbers

A number as it is written in a document: a sign, an integer and a power of ten. There are two ways
to a number of 64 bits, `Decimal.toDouble?` with one rounding and `Decimal.inSteps?` with several.
-/

namespace PrinterPanel.Numeric

/-- The power of ten with an exponent that is not negative. -/
def powerOfTen (exponent : Nat) : Nat := Nat.pow 10 exponent

/-- The number `±digits * 10 ^ exponent`. -/
structure Decimal where
  /-- Whether the number has a minus sign. -/
  negative : Bool
  /-- The digits, read as an integer. -/
  digits : Nat
  /-- The power of ten. -/
  exponent : Int
  deriving DecidableEq, Repr

namespace Decimal

/-- Upper bound on the number of decimal digits of a number. -/
def digitBound (n : Nat) : Nat := Nat.log2 n / 3 + 1

/-- Decimal numbers at or above ten to this power lie outside of every format. -/
def decimalReach : Int := 400

/-- The magnitude as a number of 64 bits, or `none` if it lies beyond their limit. -/
def toDouble? (d : Decimal) : Option Scaled :=
  if d.digits = 0 then some ⟨0, double.minExponent⟩
  else if decimalReach < d.exponent then none
  else if d.exponent + digitBound d.digits < -decimalReach then some ⟨0, double.minExponent⟩
  else
    let num := d.digits * powerOfTen d.exponent.toNat
    let s := double.nearest num (powerOfTen (-d.exponent).toNat)
    if double.exceededBy s then none else some s

/-- The largest power of ten by which a number of 64 bits is multiplied or divided at once. -/
def stepLimit : Nat := 308

/-- The product of a number of 64 bits and a power of ten; both factors and the product are
rounded. -/
def timesTen (s : Scaled) (power : Nat) : Scaled :=
  let factor := (double.nearest (powerOfTen power) 1).fraction
  double.nearest (s.fraction.1 * factor.1) (s.fraction.2 * factor.2)

/-- The quotient of a number of 64 bits and a power of ten, in steps that are rounded one by one. -/
def overTen (s : Scaled) (power : Nat) : Scaled :=
  let step (n : Nat) : Scaled :=
    let divisor := (double.nearest (powerOfTen n) 1).fraction
    double.nearest (s.fraction.1 * divisor.2) (s.fraction.2 * divisor.1)
  if s.mantissa = 0 then s
  else if stepLimit < power then overTen (step stepLimit) (power - stepLimit)
  else step power
termination_by power
decreasing_by simp only [stepLimit] at *; omega

/-- The magnitude as a number of 64 bits, or `none` if it lies beyond their limit. The digits are
rounded first and are then multiplied or divided by the power of ten. -/
def inSteps? (d : Decimal) : Option Scaled :=
  let digits := double.nearest d.digits 1
  if d.exponent < 0 then some (overTen digits (-d.exponent).toNat)
  else if d.digits = 0 then some digits
  else if stepLimit < d.exponent then none
  else
    let s := timesTen digits d.exponent.toNat
    if double.exceededBy s then none else some s

end Decimal

end PrinterPanel.Numeric
