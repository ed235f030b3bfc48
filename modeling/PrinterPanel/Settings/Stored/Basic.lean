import PrinterPanel.Bounds
import PrinterPanel.Json.Value
import PrinterPanel.Numeric.Single
import PrinterPanel.Settings.Fields
import PrinterPanel.Text.Fit

/-!
# Values of stored settings

Settings are stored as JSON. A field takes one kind of value, and it takes it only if the field
can hold it.
-/

namespace PrinterPanel.Stored

open Numeric (Single)
open Json (Value)

/-- A text that fits its room. -/
def text? (room : Nat) : Value → Option String
  | .text (some s) => if Text.fits room s then some s else none
  | _ => none

/-- A truth value. -/
def boolean? : Value → Option Bool
  | .boolean b => some b
  | _ => none

/-- An integer within a range. -/
def integer? (b : Bounds) : Value → Option Int
  | .integer i => b.narrow? i
  | _ => none

/-- A natural number within a range. -/
def natural? (b : Bounds) (v : Value) : Option Nat :=
  (integer? b v).map Int.toNat

/-- A number. -/
def number? : Value → Option Single
  | .integer i => some (Single.ofInt i)
  | .real d => Single.ofDecimalInSteps? d
  | _ => none

/-- One of several names. It may also be the only key of an object that holds no value. -/
def choice? {α : Type} (ofName? : String → Option α) : Value → Option α
  | .text (some s) => ofName? s
  | .object [(some s, .null)] => ofName? s
  | _ => none

/-- An array of a fixed number of items. -/
def pair? {α : Type} (item? : Value → Option α) : Value → Option (α × α)
  | .list [a, b] => do return (← item? a, ← item? b)
  | _ => none

/-- The fields of an object with the given keys. Other keys are ignored, but each has to be a text,
and a given key must not be there twice. An array holds all fields in order and nothing else. -/
def fields? (keys : List String) : Value → Option (Fields Value)
  | .object entries =>
    if entries.all (·.1.isSome) && keys.all (fun k => entries.countP (·.1 == some k) ≤ 1) then
      some fun k => entries.lookup (some k)
    else none
  | .list items => if items.length = keys.length then some (.ofList keys items) else none
  | _ => none

/-- The fields without those that hold no value. -/
def present (f : Fields Value) : Fields Value := fun k =>
  match f k with
  | some .null => none
  | v => v

end PrinterPanel.Stored
