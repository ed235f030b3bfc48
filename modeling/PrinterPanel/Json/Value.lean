import PrinterPanel.Bounds
import PrinterPanel.Numeric.Decimal
import PrinterPanel.Text.Digits
import PrinterPanel.Text.Reader

/-!
# JSON values

A reader for JSON texts. Strings are written in units of UTF-16, so an escape may leave half of a
character alone; such a string is well formed, but it is no text.
-/

namespace PrinterPanel.Json

open Numeric (Decimal)
open Text (Reader number? ofDigits isDigitOf)
open Text.Reader (next accept expect expectAll takeWhile takeExactly)

/-- A JSON value. -/
inductive Value where
  /-- No value. -/
  | null
  /-- A truth value. -/
  | boolean (b : Bool)
  /-- An integer that is kept in 64 bits. -/
  | integer (i : Int)
  /-- Any other number. -/
  | real (d : Decimal)
  /-- A string, with its text if it is one. -/
  | text (s : Option String)
  /-- An array. -/
  | list (items : List Value)
  /-- An object, with its keys in order. -/
  | object (entries : List (Option String × Value))
  deriving Repr, Inhabited

/-! ### Strings -/

/-- A part of a string: a character, or a unit of UTF-16 that is written by its code. -/
inductive Piece where
  /-- A character. -/
  | char (c : Char)
  /-- A unit. -/
  | unit (code : Nat)
  deriving DecidableEq, Repr

/-- The first half of a character beyond the units. -/
def isHighHalf (code : Nat) : Bool := 0xD800 ≤ code && code < 0xDC00

/-- The second half of a character beyond the units. -/
def isLowHalf (code : Nat) : Bool := 0xDC00 ≤ code && code < 0xE000

/-- The character of two halves. -/
def joinHalves (high low : Nat) : Char :=
  Char.ofNat (0x10000 + (high - 0xD800) * 0x400 + (low - 0xDC00))

/-- The text of a string: halves of characters have to stand in pairs. -/
def textOf? : List Piece → Option (List Char)
  | [] => some []
  | .char c :: rest => (textOf? rest).map (c :: ·)
  | [.unit code] =>
    if isHighHalf code || isLowHalf code then none else some [Char.ofNat code]
  | .unit code :: .unit low :: rest =>
    if isHighHalf code && isLowHalf low then (textOf? rest).map (joinHalves code low :: ·)
    else if isHighHalf code || isLowHalf code then none
    else (textOf? (.unit low :: rest)).map (Char.ofNat code :: ·)
  | .unit code :: .char c :: rest =>
    if isHighHalf code || isLowHalf code then none
    else (textOf? (.char c :: rest)).map (Char.ofNat code :: ·)

/-- An escaped part of a string; the backslash has been taken. -/
def escaped : Reader Piece := do
  match ← next with
  | '"' => return .char '"'
  | '\\' => return .char '\\'
  | '/' => return .char '/'
  | 'b' => return .char '\x08'
  | 'f' => return .char '\x0c'
  | 'n' => return .char '\n'
  | 'r' => return .char '\r'
  | 't' => return .char '\t'
  | 'u' => return .unit (← number? 16 (← takeExactly 4))
  | _ => failure

/-- The rest of a string; `fuel` bounds its length. -/
def pieces : Nat → Reader (List Piece)
  | 0 => failure
  | fuel + 1 => do
    match ← next with
    | '"' => return []
    | '\\' => return (← escaped) :: (← pieces fuel)
    | c => if ' ' ≤ c then return .char c :: (← pieces fuel) else failure

/-- The rest of a string whose opening quote has been taken. -/
def string : Reader (Option String) := do
  return (textOf? (← pieces (← get).length)).map String.ofList

/-! ### Numbers -/

/-- Digits, at least one of them. -/
def digits : Reader (List Char) := do
  let ds ← takeWhile (isDigitOf 10)
  if ds.isEmpty then failure
  return ds

/-- Digits without zeros in front. -/
def wholeDigits : Reader (List Char) := do
  match ← digits with
  | '0' :: _ :: _ => failure
  | ds => return ds

/-- The digits behind the point, if there is one. -/
def fraction : Reader (Option (List Char)) := do
  if ← accept '.' then return some (← digits) else return none

/-- The power of ten, if there is one. -/
def power : Reader (Option Int) := do
  if (← accept 'e') || (← accept 'E') then
    if ← accept '-' then return some (-(ofDigits 10 (← digits) : Int))
    let _ ← accept '+'
    return some (ofDigits 10 (← digits))
  else return none

/-- Add digits to a number as long as 64 bits hold it; the number and the digits that are left. -/
def takeUp (n : Nat) : List Char → Nat × List Char
  | [] => (n, [])
  | c :: rest =>
    let longer := n * 10 + ofDigits 10 [c]
    if (longer : Int) ≤ Bounds.longWord.max then takeUp longer rest else (n, c :: rest)

/-- A number. One without a fraction and a power of ten is an integer if 64 bits hold it; the
negative zero is none. Of another number only those digits count that 64 bits hold together; the
others keep their places. -/
def number : Reader Value := do
  let negative ← accept '-'
  let whole ← wholeDigits
  let f ← fraction
  let p ← power
  let back := f.getD []
  let i : Int := if negative then -(ofDigits 10 whole : Int) else ofDigits 10 whole
  if f.isNone && p.isNone && !(negative && i == 0) && (Bounds.longWord.narrow? i).isSome then
    return .integer i
  let (front, wholeLeft) := takeUp 0 whole
  let (n, backLeft) := takeUp front back
  return .real ⟨negative, n, p.getD 0 + wholeLeft.length + backLeft.length - back.length⟩

/-! ### Values -/

/-- Skip the blanks between the parts of a value. -/
def skipBlanks : Reader Unit := do
  let _ ← takeWhile fun c => c == ' ' || c == '\n' || c == '\t' || c == '\r'

mutual

/-- A value, with the text at its first character; `fuel` bounds the steps. -/
def value : Nat → Reader Value
  | 0 => failure
  | fuel + 1 => do
    if ← accept '"' then return .text (← string)
    if ← accept '[' then
      skipBlanks
      if ← accept ']' then return .list []
      return .list (← items fuel)
    if ← accept '\x7b' then
      skipBlanks
      if ← accept '\x7d' then return .object []
      return .object (← entries fuel)
    match (← get).head? with
    | some 'n' =>
      expectAll ['n', 'u', 'l', 'l']
      return .null
    | some 't' =>
      expectAll ['t', 'r', 'u', 'e']
      return .boolean true
    | some 'f' =>
      expectAll ['f', 'a', 'l', 's', 'e']
      return .boolean false
    | _ => number

/-- The rest of an array that has a further item. -/
def items : Nat → Reader (List Value)
  | 0 => failure
  | fuel + 1 => do
    skipBlanks
    let v ← value fuel
    skipBlanks
    if ← accept ',' then return v :: (← items fuel)
    expect ']'
    return [v]

/-- The rest of an object that has a further entry. -/
def entries : Nat → Reader (List (Option String × Value))
  | 0 => failure
  | fuel + 1 => do
    skipBlanks
    expect '"'
    let k ← string
    skipBlanks
    expect ':'
    skipBlanks
    let v ← value fuel
    skipBlanks
    if ← accept ',' then return (k, v) :: (← entries fuel)
    expect '\x7d'
    return [(k, v)]

end

/-- A value with blanks around it. -/
def document : Reader Value := do
  skipBlanks
  let v ← value (2 * (← get).length + 2)
  skipBlanks
  return v

/-- The value of a JSON text. -/
def parse? (text : String) : Option Value :=
  Reader.run? document text.toList

end PrinterPanel.Json
