import PrinterPanel.Menu.Cursor
import PrinterPanel.Menu.Window

/-!
# List on the panel

A list menu is kept as its cursor together with the window that shows it.
-/

namespace PrinterPanel.Menu

/-- Cursor and window of one list. -/
structure ListView where
  /-- The highlighted entry. -/
  cursor : Cursor
  /-- The visible entries. -/
  window : Window
  deriving DecidableEq, Repr, Inhabited

namespace ListView

/-- A list on its first entry, not scrolled. -/
def start : ListView := ⟨.first, .unscrolled⟩

/-- Index of the highlighted entry. -/
def position (l : ListView) : Nat := l.cursor.position

/-- Row of the highlighted entry. -/
def row (l : ListView) : Nat := l.window.rowOf l.position

/-- The list with an entry highlighted and scrolled into view. -/
def select (l : ListView) (item : Nat) : ListView :=
  ⟨⟨item⟩, l.window.reveal item⟩

/-- Move the cursor by one entry of `count`. The result tells what to redraw, if it moved. -/
def step (l : ListView) (forwards : Bool) (count : Nat) : Option Scroll × ListView :=
  let cursor := l.cursor.step forwards count
  if cursor = l.cursor then (none, l)
  else
    let followed := l.window.follow l.position cursor.position
    (some followed.1, ⟨cursor, followed.2⟩)

end ListView

end PrinterPanel.Menu
