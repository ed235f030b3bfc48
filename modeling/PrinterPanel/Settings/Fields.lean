/-!
# Fields

A part of the settings is written with a key for each of its fields, or as the list of its fields
in a fixed order. Both forms are read through the values of the keys.
-/

namespace PrinterPanel

/-- The value of each key that is there. -/
abbrev Fields (V : Type) := String → Option V

namespace Fields

variable {V α : Type}

/-- The fields that are listed in the order of their keys. -/
def ofList (keys : List String) (items : List V) : Fields V :=
  fun k => items[keys.idxOf k]?

/-- Read a field that has to be there. -/
def required (f : Fields V) (key : String) (read? : V → Option α) : Option α := do
  read? (← f key)

/-- Read a field that may be left out. -/
def optional (f : Fields V) (key : String) (read? : V → Option α) : Option (Option α) :=
  match f key with
  | none => some none
  | some v => (read? v).map some

end Fields

end PrinterPanel
