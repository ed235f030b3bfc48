import PrinterPanel.Settings.Error
import PrinterPanel.Text.Blank
import PrinterPanel.Text.Fit

/-!
# Pins

A pin is written as an optional `^` (pulled up) or `~` (pulled down), an optional `!` (active
when low), an optional chip with a colon, and the name of the pin: `^!PB1`, `ar:PA12`. Chips and
pins are named by ASCII letters, digits and underscores.
-/

namespace PrinterPanel

/-- The resistor that holds an idle pin. -/
inductive Pull where
  /-- No resistor. -/
  | floating
  /-- Towards the supply voltage. -/
  | up
  /-- Towards ground. -/
  | down
  deriving DecidableEq, Repr, Inhabited

/-- An input pin. -/
structure Pin where
  /-- Chip and pin, as written. -/
  name : String
  /-- Whether the pin is active when it is low. -/
  activeLow : Bool
  /-- The resistor that holds it. -/
  pull : Pull
  deriving DecidableEq, Repr, Inhabited

namespace Pin

/-- Bytes available for the name, chip included. -/
def nameRoom : Nat := 24

/-- The characters of a chip or pin name. -/
def isNameChar (c : Char) : Bool :=
  ('0' ≤ c && c ≤ '9') || ('A' ≤ c && c ≤ 'Z') || ('a' ≤ c && c ≤ 'z') || c == '_'

/-- Whether a text can name a chip or a pin. -/
def isPart (cs : List Char) : Bool :=
  !cs.isEmpty && cs.all isNameChar

/-- Whether a text is a pin name, with or without a chip in front of it. -/
def isName (cs : List Char) : Bool :=
  match cs.dropWhile (· != ':') with
  | [] => isPart cs
  | _ :: pin => isPart (cs.takeWhile (· != ':')) && isPart pin

/-- The pull that a text starts with, and the text behind it. -/
def takePull : List Char → Pull × List Char
  | '^' :: rest => (.up, rest)
  | '~' :: rest => (.down, rest)
  | rest => (.floating, rest)

/-- Whether a text starts with the mark of an active-low pin, and the text behind it. -/
def takeActiveLow : List Char → Bool × List Char
  | '!' :: rest => (true, rest)
  | rest => (false, rest)

/-- Read a pin. Blanks around it are ignored. -/
def ofChars (cs : List Char) : Except SettingsError Pin :=
  let (pull, rest) := takePull (Text.trim cs)
  let (activeLow, name) := takeActiveLow rest
  if isName name && Text.size name ≤ nameRoom then .ok ⟨String.ofList name, activeLow, pull⟩
  else .error .invalidPin

/-- Read a pin. -/
def parse (spec : String) : Except SettingsError Pin :=
  ofChars spec.toList

/-- Read two pins with a comma between them. -/
def parsePair (spec : String) : Except SettingsError (Pin × Pin) :=
  let cs := spec.toList
  match cs.dropWhile (· != ',') with
  | [] => .error .encoderPinCount
  | _ :: second =>
    if second.contains ',' then .error .encoderPinCount
    else do
      let a ← ofChars (cs.takeWhile (· != ','))
      let b ← ofChars second
      pure (a, b)

end Pin

end PrinterPanel
