/-!
# Display calls

The panel is driven by a few kinds of calls: filled areas, outlines, lines, stored pictures, text,
numbers, the backlight, and moving a part of the picture. A call may fail.
-/

namespace PrinterPanel.Display

/-- A color, with five bits of red, six of green and five of blue. -/
structure Color where
  /-- The 16 bits of the color. -/
  rgb565 : Nat
  deriving DecidableEq, Repr, Inhabited

namespace Color

def white : Color := ⟨0xFFFF⟩
def yellow : Color := ⟨0xFF0F⟩
def popup : Color := ⟨0x31E8⟩
def grey : Color := ⟨0x1145⟩
def black : Color := ⟨0x0841⟩
def red : Color := ⟨0xF00F⟩
def line : Color := ⟨0x3A6A⟩
def cursor : Color := ⟨0xEE2F⟩
def selected : Color := ⟨0x33BB⟩

end Color

/-- The fonts of the panel, by the size of a character in pixels. -/
inductive Font where
  | font6x12 | font8x8 | font12x24 | font16x32
  deriving DecidableEq, Repr, Inhabited

/-- Width of a character in pixels. -/
def Font.width : Font → Nat
  | font6x12 => 6
  | font8x8 => 8
  | font12x24 => 12
  | font16x32 => 16

/-- Font and colors of text. -/
structure TextStyle where
  font : Font
  color : Color
  background : Color
  deriving DecidableEq, Repr, Inhabited

/-- A rectangle by two opposite corners, both included. -/
structure Rect where
  x0 : Int
  y0 : Int
  x1 : Int
  y1 : Int
  deriving DecidableEq, Repr, Inhabited

/-- Where a part of the picture is moved. -/
inductive Direction where
  | up | down
  deriving DecidableEq, Repr, Inhabited

/-- A call to the display. -/
inductive Call where
  /-- Fill an area. -/
  | fill (color : Color) (area : Rect)
  /-- Draw the outline of an area. -/
  | outline (color : Color) (area : Rect)
  /-- Draw a line. -/
  | line (color : Color) (x0 y0 x1 y1 : Int)
  /-- Draw a stored picture with its top left corner at a point. -/
  | icon (library icon : Nat) (x y : Int)
  /-- Draw text. -/
  | text (style : TextStyle) (x y : Int) (text : String)
  /-- Draw a whole number in so many columns. -/
  | int (style : TextStyle) (digits : Nat) (x y : Int) (value : Int)
  /-- Draw a number with decimals; the value is scaled by ten to their count. -/
  | fixed (style : TextStyle) (intDigits decimals : Nat) (x y : Int) (value : Int)
  /-- Set the level of the backlight. -/
  | light (level : Nat)
  /-- Move the picture in an area and fill what becomes free. -/
  | move (direction : Direction) (distance : Int) (background : Color) (area : Rect)
  deriving DecidableEq, Repr

/-- Why a call to the display fails. -/
inductive Failure where
  /-- The link to the panel is broken. -/
  | transport
  /-- A point lies outside of the panel. -/
  | invalidCoordinates
  /-- The panel is not ready yet. -/
  | notInitialized
  /-- The call is too long for the link. -/
  | bufferOverflow
  deriving DecidableEq, Repr, Inhabited

/-- The text for a failed call. -/
def Failure.message : Failure → String
  | transport => "display transport failed"
  | invalidCoordinates => "coordinates out of range"
  | notInitialized => "display not initialized"
  | bufferOverflow => "display buffer overflow"

end PrinterPanel.Display
