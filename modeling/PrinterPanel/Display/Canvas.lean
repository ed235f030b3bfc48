import PrinterPanel.Display.Call
import PrinterPanel.Display.Icon
import PrinterPanel.Settings.Language

/-!
# Canvas

A drawing is the list of calls that makes it. The canvas tells the size of the panel and the
language, and it is divided into a title bar, a list of six rows and a status area.
-/

namespace PrinterPanel.Display

/-- A drawing: display calls in their order. -/
abbrev Drawing := List Call

/-- The panel that is drawn on. -/
structure Canvas where
  /-- Width in pixels. -/
  width : Nat
  /-- Height in pixels. -/
  height : Nat
  /-- Language of the menu text. -/
  language : Language
  deriving DecidableEq, Repr, Inhabited

/-- Lower end of the title bar. -/
def titleHeight : Int := 24

/-- Upper end of the status area. -/
def statusTop : Int := 260

/-- Height of a menu row. -/
def rowHeight : Int := 39

/-- Base line of a menu row. -/
def baseline (row : Int) : Int := 45 + rowHeight * row

/-- A row number as the display takes it, in 16 bits. -/
def rowNumber (row : Nat) : Int := row % 65536

/-- Left end of the menu labels. -/
def labelLeft : Int := 45

/-- Text of the menus. -/
def menuText : TextStyle := ⟨.font8x8, .white, .black⟩

/-- Text on message boxes. -/
def popupText : TextStyle := ⟨.font8x8, .white, .popup⟩

/-- An icon from the library of pictograms. -/
def pictogram (icon : Nat) (x y : Int) : Call := .icon pictograms icon x y

namespace Canvas

/-- A picture of text in the language of the panel. -/
def caption (c : Canvas) (icon : Nat) (x y : Int) : Call := .icon c.language.iconLibrary icon x y

/-- A band over the whole width. -/
def band (c : Canvas) (color : Color) (y0 y1 : Int) : Call := .fill color ⟨0, y0, c.width, y1⟩

/-- The left end of text that is centred, at 0 if it is wider than the panel. Its width is that
of its bytes, counted in 16 bits; a product beyond those counts as their largest number. -/
def centredLeft (c : Canvas) (font : Font) (text : String) : Int :=
  let width := min (text.utf8ByteSize % 65536 * font.width) 65535
  ((c.width - width) / 2 : Nat)

/-- Text in the middle between left and right. -/
def centred (c : Canvas) (style : TextStyle) (y : Int) (text : String) : Call :=
  .text style (c.centredLeft style.font text) y text

/-- An empty title bar. -/
def clearTitle (c : Canvas) : Drawing := [c.band .grey 0 titleHeight]

/-- An empty list of rows. -/
def clearRows (c : Canvas) : Drawing := [c.band .black titleHeight statusTop]

/-- An empty status area. -/
def clearStatus (c : Canvas) : Drawing := [c.band .black statusTop c.height]

/-- Empty above the status area. -/
def clearMain (c : Canvas) : Drawing := c.clearTitle ++ c.clearRows

/-- Nothing on the panel. -/
def clear (c : Canvas) : Drawing := c.clearMain ++ c.clearStatus

/-- A title from the menu text. -/
def titleCaption (c : Canvas) (icon : Nat) : Drawing := [c.caption icon titleHeight 1]

/-- A title in plain text. -/
def titleText (_ : Canvas) (title : String) : Drawing :=
  [.text ⟨.font12x24, .white, .grey⟩ 14 4 title]

/-- An empty screen with a title. -/
def frame (c : Canvas) (icon : Nat) : Drawing := c.clearMain ++ c.titleCaption icon

end Canvas

end PrinterPanel.Display
