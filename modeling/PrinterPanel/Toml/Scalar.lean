import PrinterPanel.Text.Digits
import PrinterPanel.Toml.Value

/-!
# Numbers, truth values and moments

The values that are written without quotes or brackets. Truth values, moments and numbers with a
point or a power of ten are recognised from all of their characters. An integer in base ten is
recognised from its front and from where its underscores stand. What else is in it matters only to
a field that reads it.
-/

namespace PrinterPanel.Toml

open Numeric (Decimal)
open Text (isDigitOf number? ofDigits)

/-! ### Signs and underscores -/

/-- Whether a number has a minus sign, and the text behind its sign. -/
def takeSign : List Char → Bool × List Char
  | '-' :: rest => (true, rest)
  | '+' :: rest => (false, rest)
  | rest => (false, rest)

/-- Whether every underscore stands between two digits of a base; `behindDigit` says whether a digit
stands before the text. -/
def isSpaced (base : Nat) (behindDigit : Bool) : List Char → Bool
  | [] => true
  | ['_'] => false
  | '_' :: c :: rest => behindDigit && isDigitOf base c && isSpaced base true rest
  | c :: rest => isSpaced base (isDigitOf base c) rest

/-- A text without its underscores. -/
def withoutUnderscores (cs : List Char) : List Char :=
  cs.filter (· != '_')

/-- Digits in which underscores may separate digits, without the underscores. -/
def separated? (base : Nat) (cs : List Char) : Option (List Char) :=
  let digits := withoutUnderscores cs
  if !digits.isEmpty && digits.all (isDigitOf base) && isSpaced base false cs then some digits
  else none

/-! ### Integers -/

/-- The integer that digits spell, if they are digits. -/
def spelled (negative : Bool) (base : Nat) (digits : List Char) : Value :=
  match number? base digits with
  | some n => .integer (if negative then -(n : Int) else n)
  | none => .illegible

/-- An integer in another base than ten. It has no sign, and it may have no digits. -/
def coded? (base : Nat) (cs : List Char) : Option Value :=
  if (withoutUnderscores cs).all (isDigitOf base) && isSpaced base false cs then
    some (spelled false base (withoutUnderscores cs))
  else none

/-- An integer in base ten without zeros in front: digits, behind which an underscore and any other
characters may follow. Every underscore stands between two digits, and digits of base sixteen will
do. -/
def integer? (cs : List Char) : Option Value :=
  let (negative, unsigned) := takeSign cs
  match unsigned with
  | [] => none
  | ['0'] => some (.integer 0)
  | '0' :: _ => none
  | _ =>
    let behind := unsigned.dropWhile (isDigitOf 10)
    if (behind.isEmpty || behind.head? == some '_') && isSpaced 16 false unsigned then
      some (spelled negative 10 (withoutUnderscores unsigned))
    else none

/-! ### Other numbers -/

/-- Digits in front of the point, without zeros before them. -/
def whole? (cs : List Char) : Option (List Char) :=
  match cs with
  | '0' :: _ :: _ => none
  | _ => separated? 10 cs

/-- A power of ten with its sign. -/
def power? (cs : List Char) : Option Int :=
  let (negative, unsigned) := takeSign cs
  (separated? 10 unsigned).map fun ds =>
    if negative then -(ofDigits 10 ds : Int) else ofDigits 10 ds

/-- The mark in front of a power of ten. -/
def isPowerMark (c : Char) : Bool :=
  c == 'e' || c == 'E'

/-- A number with a point, a power of ten or both. -/
def decimal? (cs : List Char) : Option Decimal := do
  let (negative, unsigned) := takeSign cs
  let significand := unsigned.takeWhile (!isPowerMark ·)
  let front ← whole? (significand.takeWhile (· != '.'))
  let back ←
    match significand.dropWhile (· != '.') with
    | [] => some []
    | _ :: digits => separated? 10 digits
  let power ←
    match unsigned.dropWhile (!isPowerMark ·) with
    | [] => some 0
    | _ :: digits => power? digits
  return ⟨negative, ofDigits 10 (front ++ back), power - back.length⟩

/-! ### Moments -/

/-- A number of exactly `width` decimal digits at the front of a text, and the text behind it. -/
def takeField (width : Nat) (cs : List Char) : Option (Nat × List Char) :=
  if (cs.takeWhile (isDigitOf 10)).length = width then
    some (ofDigits 10 (cs.takeWhile (isDigitOf 10)), cs.dropWhile (isDigitOf 10))
  else none

/-- The text behind a character with which it has to start. -/
def behind (c : Char) : List Char → Option (List Char)
  | [] => none
  | d :: rest => if d = c then some rest else none

/-- Days of a month. -/
def daysIn (year month : Nat) : Nat :=
  if month = 2 then
    if year % 4 = 0 ∧ (year % 100 ≠ 0 ∨ year % 400 = 0) then 29 else 28
  else if month = 4 ∨ month = 6 ∨ month = 9 ∨ month = 11 then 30
  else 31

/-- The text behind a date. -/
def behindDate (cs : List Char) : Option (List Char) := do
  let (year, cs) ← takeField 4 cs
  let (month, cs) ← takeField 2 (← behind '-' cs)
  let (day, cs) ← takeField 2 (← behind '-' cs)
  if 1 ≤ month ∧ month ≤ 12 ∧ 1 ≤ day ∧ day ≤ daysIn year month then some cs else none

/-- The text behind the fraction of a second, if there is one. -/
def behindFraction (cs : List Char) : Option (List Char) :=
  match cs with
  | '.' :: rest =>
    if (rest.takeWhile (isDigitOf 10)).isEmpty then none
    else some (rest.dropWhile (isDigitOf 10))
  | _ => some cs

/-- The text behind a time of day; the seconds may be left out, and 60 of them are allowed. -/
def behindTime (cs : List Char) : Option (List Char) := do
  let (hour, cs) ← takeField 2 cs
  let (minute, cs) ← takeField 2 (← behind ':' cs)
  if 23 < hour ∨ 59 < minute then none
  match cs with
  | ':' :: rest =>
    let (second, cs) ← takeField 2 rest
    if 60 < second then none
    behindFraction cs
  | _ => some cs

/-- Whether a text is the distance from universal time. -/
def isOffset (cs : List Char) : Bool :=
  match cs with
  | ['Z'] | ['z'] => true
  | c :: rest =>
    (c == '+' || c == '-') &&
      (do
        let (hour, cs) ← takeField 2 rest
        let (minute, cs) ← takeField 2 (← behind ':' cs)
        some (hour ≤ 23 && minute ≤ 59 && cs.isEmpty) : Option Bool) == some true
  | [] => false

/-- Whether a text is a date, a time of day, or both with or without the distance from universal
time. -/
def isMoment (cs : List Char) : Bool :=
  match behindDate cs with
  | none => behindTime cs == some []
  | some [] => true
  | some (c :: time) =>
    (c == 'T' || c == 't' || c == ' ') &&
      match behindTime time with
      | none => false
      | some [] => true
      | some rest => isOffset rest

/-! ### All together -/

/-- The value that a text without quotes and brackets stands for. -/
def scalar? (cs : List Char) : Option Value :=
  let (negative, unsigned) := takeSign cs
  if cs = ['t', 'r', 'u', 'e'] then some (.boolean true)
  else if cs = ['f', 'a', 'l', 's', 'e'] then some (.boolean false)
  else if unsigned = ['i', 'n', 'f'] then some (.real (.infinite negative))
  else if unsigned = ['n', 'a', 'n'] then some (.real .notANumber)
  else
    match cs with
    | '0' :: 'x' :: digits => coded? 16 digits
    | '0' :: 'o' :: digits => coded? 8 digits
    | '0' :: 'b' :: digits => coded? 2 digits
    | _ =>
      if isMoment cs then some .moment
      else if cs.any (fun c => c == '.' || isPowerMark c) then
        (decimal? cs).map fun d => .real (.finite d)
      else if cs.contains ' ' then none
      else integer? cs

end PrinterPanel.Toml
