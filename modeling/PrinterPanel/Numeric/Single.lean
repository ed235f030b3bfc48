import PrinterPanel.Numeric.Decimal

/-!
# Numbers of 32 bits

A number is kept by its bits: sign, eight bits of exponent and 23 bits of mantissa.
-/

namespace PrinterPanel.Numeric

/-- A floating-point number of 32 bits. -/
structure Single where
  /-- Its bits. -/
  bits : UInt32
  deriving DecidableEq, Repr, Inhabited

/-- What the bits of a number say. -/
inductive Reading where
  /-- Not a number. -/
  | nan
  /-- Infinity with a sign. -/
  | infinite (negative : Bool)
  /-- A number with a sign. -/
  | finite (negative : Bool) (magnitude : Scaled)
  deriving DecidableEq, Repr

namespace Single

/-- The bits without the sign. -/
def magnitudeBits (x : Single) : Nat := x.bits.toNat % 0x80000000

/-- Whether the sign is set. -/
def isNegative (x : Single) : Bool := 0x80000000 ≤ x.bits.toNat

/-- Bits of the magnitude of infinity; larger ones are no numbers. -/
def infinityBits : Nat := 0x7F800000

/-- Read the bits of a number. -/
def read (x : Single) : Reading :=
  let field : Nat := x.magnitudeBits / 0x800000
  let fraction : Nat := x.magnitudeBits % 0x800000
  if field = 255 then if fraction = 0 then .infinite x.isNegative else .nan
  else if field = 0 then .finite x.isNegative ⟨fraction, single.minExponent⟩
  else .finite x.isNegative ⟨0x800000 + fraction, (field : Int) - 150⟩

/-- The number with a sign and the bits of a magnitude. -/
def ofBits (negative : Bool) (magnitude : Nat) : Single :=
  ⟨UInt32.ofNat (magnitude + if negative then 0x80000000 else 0)⟩

/-- Write a magnitude of the format; a carry out of the mantissa moves into the exponent. -/
def ofScaled (negative : Bool) (s : Scaled) : Single :=
  let bits :=
    if s.mantissa < 0x800000 then s.mantissa
    else (s.exponent + 150).toNat * 0x800000 + (s.mantissa - 0x800000)
  ofBits negative (min bits infinityBits)

/-- The number nearest to a fraction, or infinity beyond the limit of the format. -/
def ofFraction (negative : Bool) (num den : Nat) : Single :=
  ofScaled negative (single.nearest num den)

/-- Not a number. -/
def notANumber : Single := ⟨0x7FC00000⟩

/-- Infinity with a sign. -/
def infinity (negative : Bool) : Single := ofBits negative infinityBits

/-- A number of 64 bits, rounded to 32. -/
def ofDouble (negative : Bool) (s : Scaled) : Single :=
  ofFraction negative s.fraction.1 s.fraction.2

/-- A decimal number, read with 64 bits and then rounded to 32; `none` if it is too large to be
read. -/
def ofDecimal? (d : Decimal) : Option Single :=
  d.toDouble?.map (ofDouble d.negative)

/-- A decimal number, read with 64 bits in steps and then rounded to 32; `none` if it is too large
to be read. -/
def ofDecimalInSteps? (d : Decimal) : Option Single :=
  d.inSteps?.map (ofDouble d.negative)

/-- An integer, rounded once. -/
def ofInt (i : Int) : Single :=
  ofFraction (i < 0) i.natAbs 1

/-- Place in the order of the numbers; both zeros have one place, and what is no number has
none. -/
def rank (x : Single) : Option Int :=
  if infinityBits < x.magnitudeBits then none
  else some (if x.isNegative then -(x.magnitudeBits : Int) else x.magnitudeBits)

/-- Whether both are numbers and the first is the smaller one. -/
def less (x y : Single) : Bool :=
  match x.rank, y.rank with
  | some a, some b => a < b
  | _, _ => false

/-- Whether this is a number above zero. -/
def isPositive (x : Single) : Bool :=
  match x.rank with
  | some a => 0 < a
  | none => false

/-- The product with a whole number, rounded. -/
def timesNat (x : Single) (factor : Nat) : Single :=
  match x.read with
  | .finite negative s => ofFraction negative (s.fraction.1 * factor) s.fraction.2
  | _ => x

/-- The nearest whole number from 0 to `limit`; halves go up. -/
def roundToNat (x : Single) (limit : Nat) : Nat :=
  match x.read with
  | .nan => 0
  | .infinite negative => if negative then 0 else limit
  | .finite negative s =>
    if negative then 0 else min limit (divideHalfUp s.fraction.1 s.fraction.2)

end Single

end PrinterPanel.Numeric
