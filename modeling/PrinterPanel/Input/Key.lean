/-!
# Keys and symbols

The encoder layer delivers keys; the menus consume symbols. A latch holds the symbol that waits
for the menus.
-/

namespace PrinterPanel

/-- What the user did with the knob. -/
inductive Key where
  /-- A short press. -/
  | click
  /-- A press held for long. -/
  | longClick
  /-- One detent counter-clockwise. -/
  | up
  /-- One detent clockwise. -/
  | down
  /-- One fast detent counter-clockwise. -/
  | fastUp
  /-- One fast detent clockwise. -/
  | fastDown
  deriving DecidableEq, Repr, Inhabited

namespace Key

/-- Every key, each once. -/
def all : List Key := [click, longClick, up, down, fastUp, fastDown]

/-- The name of a key. -/
def name : Key → String
  | click => "click"
  | longClick => "long_click"
  | up => "up"
  | down => "down"
  | fastUp => "fast_up"
  | fastDown => "fast_down"

/-- The key with this name. -/
def ofName? (name : String) : Option Key :=
  all.find? (·.name == name)

/-- Every key is found by its name. -/
theorem ofName?_name (k : Key) : ofName? k.name = some k := by
  cases k <;> decide

end Key

/-- What a menu gets to see of a key. -/
inductive Symbol where
  /-- Nothing happened. -/
  | idle
  /-- Clockwise. -/
  | cw
  /-- Clockwise, and fast. -/
  | fastCw
  /-- Counter-clockwise. -/
  | ccw
  /-- Counter-clockwise, and fast. -/
  | fastCcw
  /-- Pressed. -/
  | enter
  /-- Pressed for long. -/
  | longEnter
  deriving DecidableEq, Repr, Inhabited

namespace Symbol

/-- The symbol of a key; down is clockwise. -/
def ofKey : Key → Symbol
  | .click => enter
  | .longClick => longEnter
  | .up => ccw
  | .down => cw
  | .fastUp => fastCcw
  | .fastDown => fastCw

/-- Whether the knob was turned clockwise. -/
def isCw : Symbol → Bool
  | cw | fastCw => true
  | _ => false

/-- Whether the knob was turned counter-clockwise. -/
def isCcw : Symbol → Bool
  | ccw | fastCcw => true
  | _ => false

/-- Whether the knob was turned. -/
def isTurn (s : Symbol) : Bool := s.isCw || s.isCcw

/-- By how much the symbol changes a value: one, or ten if the knob is turned fast. -/
def amount : Symbol → Int
  | cw => 1
  | fastCw => 10
  | ccw => -1
  | fastCcw => -10
  | _ => 0

/-- The symbol with fast turning taken as a single step. -/
def slowed : Symbol → Symbol
  | fastCw => cw
  | fastCcw => ccw
  | s => s

end Symbol

/-- A buffer for one symbol. A new symbol replaces one that was not taken. -/
structure Latch where
  /-- The symbol that waits. -/
  pending : Symbol
  deriving DecidableEq, Repr, Inhabited

namespace Latch

/-- The latch in which nothing waits. -/
def empty : Latch := ⟨.idle⟩

/-- The latch with a new symbol. -/
def put (_ : Latch) (s : Symbol) : Latch := ⟨s⟩

/-- The waiting symbol, and the latch after it was taken. -/
def take (l : Latch) : Symbol × Latch := (l.pending, empty)

end Latch

end PrinterPanel
