/-!
# Scrolling window over a list

Six rows of a list are on the panel at a time. The window is kept by the index of the entry on
the bottom row; a list that is not scrolled has its entries 0 to 5 on rows 0 to 5.
-/

namespace PrinterPanel.Menu

/-- Number of the bottom row; the rows are counted from 0. -/
def bottomRow : Nat := 5

/-- What has to be redrawn after the cursor moved. -/
inductive Scroll where
  /-- The rows move up; `item` appears on the bottom row. -/
  | down (item : Nat)
  /-- The rows move down; `item` appears on the top row. -/
  | up (item : Nat)
  /-- The rows stay; the highlight moves from one to the other. -/
  | highlight (fromRow toRow : Nat)
  deriving DecidableEq, Repr

/-- The part of a list that is on the panel. -/
structure Window where
  /-- Index of the entry on the bottom row. -/
  bottom : Nat
  deriving DecidableEq, Repr, Inhabited

namespace Window

/-- The window over the start of a list. -/
def unscrolled : Window := ⟨bottomRow⟩

/-- Index of the entry on the top row. -/
def top (w : Window) : Nat := w.bottom - bottomRow

/-- Index of the last entry that is visible in a list of `count` entries. -/
def lastVisible (w : Window) (count : Nat) : Nat := min w.bottom (count - 1)

/-- The visible entries of a list of `count` entries, from the top row down. -/
def visible (w : Window) (count : Nat) : List Nat :=
  List.range' w.top (w.lastVisible count + 1 - w.top)

/-- Row on which an entry of the window stands. -/
def rowOf (w : Window) (item : Nat) : Nat := item + bottomRow - w.bottom

/-- The window moved as little as possible so that it shows an entry. -/
def reveal (w : Window) (item : Nat) : Window :=
  if w.bottom < item then ⟨item⟩
  else if item + bottomRow < w.bottom then ⟨max (item + bottomRow) bottomRow⟩
  else w

/-- Follow a cursor that moved from `previous` to `current`, by at most one row. -/
def follow (w : Window) (previous current : Nat) : Scroll × Window :=
  if previous < current ∧ bottomRow < current ∧ w.bottom < current then
    (.down current, ⟨current⟩)
  else if current < previous ∧ current + bottomRow < w.bottom then
    (.up (w.bottom - 1 - bottomRow), ⟨w.bottom - 1⟩)
  else (.highlight (w.rowOf previous) (w.rowOf current), w)

end Window

end PrinterPanel.Menu
