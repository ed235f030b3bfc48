import PrinterPanel.Display.Canvas
import PrinterPanel.Menu.Item
import PrinterPanel.Menu.ListView

/-!
# Menu rows

A row has a cursor block at its left, a picture, a label, sometimes a number, and a line below it.
After a step of the cursor a list is not drawn anew: the highlight moves, or the rows are shifted
and one row is drawn.
-/

namespace PrinterPanel.Display

open Menu (bottomRow ListView MenuItem Figure Scroll)

namespace Canvas

/-- The cursor block of a row. -/
def cursorBlock (_ : Canvas) (row : Nat) : Drawing :=
  let n := rowNumber row
  [.fill .cursor ⟨0, baseline n - 18, 10, baseline (n + 1) - 20⟩]

/-- Remove the cursor block of a row. -/
def eraseCursor (_ : Canvas) (row : Nat) : Drawing :=
  let n := rowNumber row
  [.fill .black ⟨0, baseline n - 18, 14, baseline (n + 1) - 20⟩]

/-- Move the cursor block. -/
def moveCursor (c : Canvas) (fromRow toRow : Nat) : Drawing :=
  c.eraseCursor fromRow ++ c.cursorBlock toRow

/-- Label, picture and line of a row. -/
def row (c : Canvas) (row icon : Nat) (label : String) : Drawing :=
  let n := rowNumber row
  let lineY := baseline (n + 1) - 22
  [.fill .black ⟨labelLeft, baseline n - 5, c.width, lineY⟩,
    .text menuText labelLeft (baseline n - 5) label,
    pictogram icon 20 (baseline n - 14),
    .line .line 15 lineY 235 lineY]

/-- The row that leads back, at the top of a list. -/
def backRow (c : Canvas) (selected : Bool) : Drawing :=
  let lineY := baseline 1 - 22
  [pictogram Icon.back 20 (baseline 0 - 14),
    .fill .black ⟨labelLeft, baseline 0 - 5, c.width, lineY⟩,
    c.caption Caption.back labelLeft (baseline 0 - 16),
    .line .line 15 lineY 235 lineY] ++
  if selected then c.cursorBlock 0 else []

/-- The number beside a row. It is highlighted while it is edited. -/
def figure (_ : Canvas) (row : Nat) (f : Figure) (highlighted : Bool) : Drawing :=
  let style : TextStyle := ⟨.font8x8, .white, if highlighted then .selected else .black⟩
  let y := baseline (rowNumber row) - 5
  if f.decimals = 0 then [.int style 3 188 y f.value] else [.fixed style 3 f.decimals 172 y f.value]

/-- The visible rows of a list and its cursor. Entry 0 is the way back; `entry item row` draws any
other entry. -/
def listWith (c : Canvas) (count : Nat) (list : ListView) (entry : Nat → Nat → Drawing) : Drawing :=
  c.clearRows ++
  (list.window.visible count).flatMap (fun item =>
    if item = 0 then c.backRow false else entry item (list.window.rowOf item)) ++
  c.cursorBlock list.row

/-- One entry of a fixed menu with the number beside it; nothing if there is no such entry. -/
def itemRow {α : Type} [MenuItem α] (c : Canvas) (items : List α) (figures : List (Option Figure))
    (item row : Nat) : Drawing :=
  match items[item]? with
  | none => []
  | some entry =>
    c.row row (MenuItem.icon entry) (MenuItem.label entry) ++
    match figures[item]? with
    | some (some f) => c.figure row f false
    | _ => []

/-- A fixed menu with numbers beside its rows. -/
def list {α : Type} [MenuItem α] (c : Canvas) (items : List α) (figures : List (Option Figure))
    (list : ListView) : Drawing :=
  c.listWith items.length list (c.itemRow items figures)

/-- Shift the rows by one and move the cursor block back to the row it is on. -/
def shiftRows (c : Canvas) (direction : Direction) : Drawing :=
  .move direction rowHeight .grey ⟨12, titleHeight, c.width - 1, statusTop⟩ ::
  match direction with
  | .down => c.moveCursor 1 0
  | .up =>
    let y := baseline (rowNumber bottomRow + 1) - 22
    c.moveCursor (bottomRow - 1) bottomRow ++ [.line .line 18 y 238 y]

/-- Redraw a list after a step of its cursor. -/
def scrollWith (c : Canvas) (s : Scroll) (entry : Nat → Nat → Drawing) : Drawing :=
  match s with
  | .down item => c.shiftRows .up ++ entry item bottomRow
  | .up item =>
    c.shiftRows .down ++ if item = 0 then c.backRow true else entry item 0
  | .highlight fromRow toRow => c.moveCursor fromRow toRow

/-- Redraw a fixed menu after a step of its cursor. -/
def scroll {α : Type} [MenuItem α] (c : Canvas) (s : Scroll) (items : List α)
    (figures : List (Option Figure)) : Drawing :=
  c.scrollWith s (c.itemRow items figures)

/-- The notice of an empty file list. -/
def noMedia (c : Canvas) : Drawing :=
  [.fill .red ⟨11, baseline 3 - 10, c.width - 10, baseline 4⟩,
    .text ⟨.font16x32, .yellow, .red⟩ (((c.width : Int) - 128) / 2) (baseline 3) "No Media"]

end Canvas

end PrinterPanel.Display
