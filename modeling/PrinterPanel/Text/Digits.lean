/-!
# Digits

Numbers are written with the ASCII digits in base ten and with letters of either case beyond ten.
-/

namespace PrinterPanel.Text

/-- The digits in order of their values. -/
def allDigits : List Char := "0123456789abcdef".toList

/-- The value of a digit, up to base sixteen. -/
def digitValue? (c : Char) : Option Nat :=
  allDigits.idxOf? c.toLower

/-- Whether a character is a digit of a base. -/
def isDigitOf (base : Nat) (c : Char) : Bool :=
  match digitValue? c with
  | some v => v < base
  | none => false

/-- The number that digits spell. -/
def ofDigits (base : Nat) (cs : List Char) : Nat :=
  cs.foldl (fun n c => n * base + (digitValue? c).getD 0) 0

/-- The number that is spelled by a text of digits and nothing else. -/
def number? (base : Nat) (cs : List Char) : Option Nat :=
  if !cs.isEmpty && cs.all (isDigitOf base) then some (ofDigits base cs) else none

/-- The character with the code that hexadecimal digits spell, if there is one. -/
def charOfHex? (cs : List Char) : Option Char := do
  let code ← number? 16 cs
  if code.isValidChar then some (Char.ofNat code) else none

end PrinterPanel.Text
