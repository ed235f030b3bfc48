/-!
# Selection cursor

The position of the highlighted entry in a list. The length of the list is given with each step
forward, because a list may change its length while the cursor stands on it.
-/

namespace PrinterPanel.Menu

/-- The index of the highlighted entry. -/
structure Cursor where
  /-- Index of the entry, counted from 0. -/
  position : Nat
  deriving DecidableEq, Repr, Inhabited

namespace Cursor

/-- The cursor on the first entry. -/
def first : Cursor := ⟨0⟩

/-- The cursor one entry further, or on the last of `count` entries if it stands at or behind
that one. -/
def forward (c : Cursor) (count : Nat) : Cursor :=
  if c.position < count - 1 then ⟨c.position + 1⟩ else ⟨count - 1⟩

/-- The cursor one entry back, or where it stands if that is the first entry. -/
def back (c : Cursor) : Cursor := ⟨c.position - 1⟩

/-- One step in the given direction through a list of `count` entries. -/
def step (c : Cursor) (forwards : Bool) (count : Nat) : Cursor :=
  if forwards then c.forward count else c.back

/-- Whether a movement waits to be reported. Each step tells at once whether it moved the cursor,
and a placement reports nothing, so none ever waits. -/
def movementWaiting (_ : Cursor) : Bool := false

/-- A step forward ends on an entry of the list, also if the list has become shorter. -/
theorem forward_lt {c : Cursor} {count : Nat} (h : 0 < count) :
    (c.forward count).position < count := by
  unfold forward
  split <;> simp only <;> omega

/-- A step back never goes forward. -/
theorem back_le (c : Cursor) : c.back.position ≤ c.position := by
  simp [back]

end Cursor

end PrinterPanel.Menu
