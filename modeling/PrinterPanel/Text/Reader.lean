/-!
# Reading text

A reader takes characters from the front of a text. It yields what it has read, or it fails: the
formats that are read here have no partial result, so a failure says no more than that.
-/

namespace PrinterPanel.Text

/-- Reads a value from the front of a text and leaves the rest. -/
abbrev Reader (α : Type) := StateT (List Char) Option α

namespace Reader

/-- The value of a reader that reads a whole text. -/
def run? {α : Type} (r : Reader α) (text : List Char) : Option α :=
  match StateT.run r text with
  | some (a, []) => some a
  | _ => none

/-- Whether the text starts with a character; the character stays. -/
def startsWith (c : Char) : Reader Bool := do
  return (← get).head? == some c

/-- Take the next character. -/
def next : Reader Char := do
  match ← get with
  | [] => failure
  | c :: rest => set rest; return c

/-- Take a character if the text starts with it. -/
def accept (c : Char) : Reader Bool := do
  match ← get with
  | [] => return false
  | d :: rest => if d = c then set rest; return true else return false

/-- Take a character with which the text has to start. -/
def expect (c : Char) : Reader Unit := do
  if !(← accept c) then failure

/-- Take characters with which the text has to start. -/
def expectAll (cs : List Char) : Reader Unit :=
  cs.forM expect

/-- Take the characters at the front that satisfy a predicate. -/
def takeWhile (p : Char → Bool) : Reader (List Char) := do
  let text ← get
  set (text.dropWhile p)
  return text.takeWhile p

/-- Take a number of characters. -/
def takeExactly (n : Nat) : Reader (List Char) := do
  let text ← get
  if text.length < n then failure
  set (text.drop n)
  return text.take n

end Reader

end PrinterPanel.Text
