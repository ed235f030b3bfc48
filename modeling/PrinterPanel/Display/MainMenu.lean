import PrinterPanel.Display.Canvas

/-!
# Main menu

Four large tiles, two by two. The fourth leads to the macros or to the machine data.
-/

namespace PrinterPanel.Display.Canvas

/-- The top left corner of a tile. -/
def tileCorner : Nat → Int × Int
  | 0 => (12, 51)
  | 1 => (126, 51)
  | 2 => (12, 178)
  | _ => (126, 178)

/-- Picture and caption of a tile. -/
def tilePictures : Nat → Bool → Nat × Nat
  | 0, false => (Icon.print, Caption.print)
  | 0, true => (Icon.printSelected, Caption.printSelected)
  | 1, false => (Icon.prepare, Caption.prepare)
  | 1, true => (Icon.prepareSelected, Caption.prepareSelected)
  | 2, false => (Icon.control, Caption.control)
  | 2, true => (Icon.controlSelected, Caption.controlSelected)
  | _, false => (Icon.leveling, Caption.info)
  | _, true => (Icon.levelingSelected, Caption.infoSelected)

/-- One tile of the main menu; `miscPage` tells what the fourth one leads to. -/
def tile (c : Canvas) (index : Nat) (selected miscPage : Bool) : Drawing :=
  let (x, y) := tileCorner index
  let (icon, text) := tilePictures index selected
  [pictogram icon x y,
    if index = 3 ∧ miscPage then .text menuText (x + 34) (y + 69) "Misc"
    else c.caption text (x + 1) (y + 69)] ++
  if selected then [.outline .white ⟨x, y, x + 100, y + 114⟩] else []

/-- The main menu with one tile selected. -/
def mainMenu (c : Canvas) (page : Nat) (miscPage : Bool) : Drawing :=
  c.clear ++ c.caption Caption.mainMenu 29 1 ::
  (List.range 4).flatMap fun index => c.tile index (index == page) miscPage

end PrinterPanel.Display.Canvas
