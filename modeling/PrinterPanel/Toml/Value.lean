import PrinterPanel.Numeric.Decimal

/-!
# Values of a TOML document
-/

namespace PrinterPanel.Toml

open Numeric (Decimal)

/-- A number that is not written as an integer. -/
inductive Real where
  /-- A number with a fraction or a power of ten. -/
  | finite (d : Decimal)
  /-- Infinity with a sign. -/
  | infinite (negative : Bool)
  /-- Not a number. -/
  | notANumber
  deriving DecidableEq, Repr

/-- A value of a document. Integers have any size; a field decides what it takes. -/
inductive Value where
  /-- A string. -/
  | text (s : String)
  /-- An integer. -/
  | integer (i : Int)
  /-- An integer that has no digits, or that has other characters among them. It may stand where no
  field reads it. -/
  | illegible
  /-- Any other number. -/
  | real (r : Real)
  /-- A truth value. -/
  | boolean (b : Bool)
  /-- A date, a time of day or both. No setting is a moment, so only the kind is kept. -/
  | moment
  /-- An array. -/
  | list (items : List Value)
  /-- A table; no key is in it twice. -/
  | table (entries : List (String × Value))
  deriving Repr, Inhabited

end PrinterPanel.Toml
