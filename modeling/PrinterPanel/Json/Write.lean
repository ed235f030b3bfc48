import PrinterPanel.Numeric.Shortest

/-!
# Writing JSON

JSON without any blanks. A number of 32 bits is written with the fewest digits that read back, in
positional form from 10⁻⁶ up to 10¹³ and with a power of ten beyond.
-/

namespace PrinterPanel.Json.Write

open Numeric (Single shortest)

/-! ### Strings -/

/-- A hexadecimal digit in lower case. -/
def hexDigit (n : Nat) : Char :=
  Char.ofNat (if n < 10 then '0'.toNat + n else 'a'.toNat + (n - 10))

/-- The characters that have an escape of one letter, with that letter. -/
def shortEscapes : List (Char × Char) :=
  [('"', '"'), ('\\', '\\'), ('\x08', 'b'), ('\x0c', 'f'), ('\n', 'n'), ('\r', 'r'), ('\t', 't')]

/-- A character within a string: quotes, backslashes and control characters are escaped. -/
def escape (c : Char) : List Char :=
  match shortEscapes.lookup c with
  | some letter => ['\\', letter]
  | none =>
    if c < ' ' then ['\\', 'u', '0', '0', hexDigit (c.toNat / 16), hexDigit (c.toNat % 16)]
    else [c]

/-- A string. -/
def text (s : String) : String :=
  String.ofList ('"' :: (s.toList.flatMap escape ++ ['"']))

/-! ### Numbers and truth values -/

/-- An integer. -/
def integer (i : Int) : String := toString i

/-- A natural number. -/
def natural (n : Nat) : String := integer n

/-- A truth value. -/
def boolean (b : Bool) : String := if b then "true" else "false"

/-- No value. -/
def null : String := "null"

/-- Where the positional form begins and ends. -/
structure Layout where
  /-- The most digits before the point. -/
  maxWhole : Int
  /-- The most zeros between the point and the first digit. -/
  maxZeros : Int

/-- The layout of numbers of 32 bits. -/
def layout : Layout := ⟨13, 5⟩

/-- A power of ten. Its exponent always has a sign. -/
def power (exponent : Int) : List Char :=
  'e' :: (if 0 ≤ exponent then ['+'] else []) ++ (integer exponent).toList

/-- The number `digits * 10 ^ exponent`. -/
def positive (l : Layout) (digits : List Char) (exponent : Int) : List Char :=
  let point : Int := digits.length + exponent
  if 0 ≤ exponent ∧ point ≤ l.maxWhole then
    digits ++ List.replicate exponent.toNat '0' ++ ['.', '0']
  else if 0 < point ∧ point ≤ l.maxWhole then
    digits.take point.toNat ++ '.' :: digits.drop point.toNat
  else if -l.maxZeros ≤ point ∧ point ≤ 0 then
    ['0', '.'] ++ List.replicate (-point).toNat '0' ++ digits
  else
    let front := digits.take 1
    let back := digits.drop 1
    front ++ (if back.isEmpty then [] else '.' :: back) ++ power (point - 1)

/-- A number of 32 bits; what is no number, or no finite one, is written as no value. -/
def single (x : Single) : String :=
  match x.read with
  | .nan => null
  | .infinite _ => null
  | .finite negative s =>
    let (n, exponent) := shortest s
    let number :=
      if s.mantissa = 0 then ['0', '.', '0'] else positive layout (Nat.toDigits 10 n) exponent
    String.ofList (if negative then '-' :: number else number)

/-! ### Arrays and objects -/

/-- An array of written items. -/
def list (items : List String) : String :=
  "[" ++ ",".intercalate items ++ "]"

/-- An object of written fields. -/
def object (fields : List (String × String)) : String :=
  "\x7b" ++ ",".intercalate (fields.map fun f => text f.1 ++ ":" ++ f.2) ++ "\x7d"

/-- A value that may be missing. -/
def optional {α : Type} (write : α → String) : Option α → String
  | some a => write a
  | none => null

end PrinterPanel.Json.Write
