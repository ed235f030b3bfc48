import Mathlib.Tactic.IntervalCases
import PrinterPanel.Proofs.Parts

/-!
# Coordinates in 16 bits

Coordinates have 16 bits. Here every part is drawn once more, with its coordinates computed one
step after the other in 16 bits; a step that would leave them, or that would be cut off at one of
their ends, has no value. On a panel of 240 by 320 pixels every step has one, and the calls are
those of the part.
-/

namespace PrinterPanel.Display

open Menu (bottomRow Figure)

/-- A coordinate while it is computed. It has no value once a step has left the 16 bits. -/
structure Coordinate where
  /-- The value so far. -/
  value? : Option Nat

namespace Coordinate

/-- A number as a coordinate. -/
def ofNat (n : Nat) : Coordinate := ⟨if n < 65536 then some n else none⟩

instance (n : Nat) : OfNat Coordinate n := ⟨ofNat n⟩

/-- One step of a computation, on the values of two coordinates. -/
def step (f : Nat → Nat → Coordinate) (a b : Coordinate) : Coordinate :=
  match a.value?, b.value? with
  | some m, some n => f m n
  | _, _ => ⟨none⟩

instance : Add Coordinate := ⟨step fun m n => ofNat (m + n)⟩

instance : Sub Coordinate := ⟨step fun m n => if n ≤ m then ofNat (m - n) else ⟨none⟩⟩

instance : Mul Coordinate := ⟨step fun m n => ofNat (m * n)⟩

instance : Div Coordinate := ⟨step fun m n => if n = 0 then ⟨none⟩ else ofNat (m / n)⟩

section Steps

variable {m n : Nat}

/-- A number of 16 bits has its value. -/
theorem ofNat_of_lt (h : n < 65536) : ofNat n = ⟨some n⟩ := by
  rw [ofNat, if_pos h]

/-- A step is taken on numbers of 16 bits. -/
theorem step_ofNat (f : Nat → Nat → Coordinate) (hm : m < 65536) (hn : n < 65536) :
    step f (ofNat m) (ofNat n) = f m n := by
  rw [ofNat_of_lt hm, ofNat_of_lt hn, step]

/-- A sum that stays in 16 bits is computed as it is. -/
theorem ofNat_add (h : m + n < 65536) : ofNat m + ofNat n = ofNat (m + n) :=
  step_ofNat _ (by omega) (by omega)

/-- A difference that is not cut off at 0 is computed as it is. -/
theorem ofNat_sub (hm : m < 65536) (h : n ≤ m) : ofNat m - ofNat n = ofNat (m - n) :=
  (step_ofNat _ hm (by omega)).trans (if_pos h)

/-- A product is computed as it is, and has a value if it stays in 16 bits. -/
theorem ofNat_mul (hm : m < 65536) (hn : n < 65536) : ofNat m * ofNat n = ofNat (m * n) :=
  step_ofNat _ hm hn

/-- A quotient is computed as it is, unless the divisor is 0. -/
theorem ofNat_div (hm : m < 65536) (hn : n < 65536) (h : n ≠ 0) :
    ofNat m / ofNat n = ofNat (m / n) :=
  (step_ofNat _ hm hn).trans (if_neg h)

end Steps

/-! ### Calls -/

/-- A call with computed coordinates, if all of them have a value. -/
abbrev Computed := Option Call

def fill (color : Color) (x0 y0 x1 y1 : Coordinate) : Computed := do
  return .fill color ⟨← x0.value?, ← y0.value?, ← x1.value?, ← y1.value?⟩

def outline (color : Color) (x0 y0 x1 y1 : Coordinate) : Computed := do
  return .outline color ⟨← x0.value?, ← y0.value?, ← x1.value?, ← y1.value?⟩

def line (color : Color) (x0 y0 x1 y1 : Coordinate) : Computed := do
  return .line color (← x0.value?) (← y0.value?) (← x1.value?) (← y1.value?)

def icon (library number : Nat) (x y : Coordinate) : Computed := do
  return .icon library number (← x.value?) (← y.value?)

def text (style : TextStyle) (x y : Coordinate) (text : String) : Computed := do
  return .text style (← x.value?) (← y.value?) text

def int (style : TextStyle) (digits : Nat) (x y : Coordinate) (value : Int) : Computed := do
  return .int style digits (← x.value?) (← y.value?) value

def fixed (style : TextStyle) (intDigits decimals : Nat) (x y : Coordinate) (value : Int) :
    Computed := do
  return .fixed style intDigits decimals (← x.value?) (← y.value?) value

def move (direction : Direction) (distance : Coordinate) (background : Color)
    (x0 y0 x1 y1 : Coordinate) : Computed := do
  return .move direction (← distance.value?) background
    ⟨← x0.value?, ← y0.value?, ← x1.value?, ← y1.value?⟩

def pictogram (number : Nat) (x y : Coordinate) : Computed := icon pictograms number x y

/-! ### Places on the panel -/

def titleHeight : Coordinate := 24
def statusTop : Coordinate := 260
def rowHeight : Coordinate := 39
def labelLeft : Coordinate := 45
def valueLeft : Coordinate := 172
def characterWidth : Coordinate := 8
def columnWidth : Coordinate := 10
def padding : Coordinate := 15
def lineHeight : Coordinate := 18
def buttonHeight : Coordinate := 31

def baseline (row : Coordinate) : Coordinate := 45 + rowHeight * row

section Drawings

variable (c : Canvas)

def width : Coordinate := ofNat c.width

def height : Coordinate := ofNat c.height

def caption (number : Nat) (x y : Coordinate) : Computed := icon c.language.iconLibrary number x y

def band (color : Color) (y0 y1 : Coordinate) : Computed := fill color 0 y0 (width c) y1

def centred (style : TextStyle) (y : Coordinate) (s : String) : Computed :=
  text style ((width c - ofNat s.utf8ByteSize * ofNat style.font.width) / 2) y s

def clearMain : List Computed := [band c .grey 0 titleHeight, band c .black titleHeight statusTop]

def clear : List Computed := clearMain c ++ [band c .black statusTop (height c)]

def frame (number : Nat) : List Computed := clearMain c ++ [caption c number titleHeight 1]

/-! ### Rows -/

def cursorBlock (row : Nat) : List Computed :=
  let line := ofNat row
  [fill .cursor 0 (baseline line - 18) 10 (baseline (line + 1) - 20)]

def eraseCursor (row : Nat) : List Computed :=
  let line := ofNat row
  [fill .black 0 (baseline line - 18) 14 (baseline (line + 1) - 20)]

def row (row number : Nat) (label : String) : List Computed :=
  let n := ofNat row
  [fill .black labelLeft (baseline n - 5) (width c) (baseline (n + 1) - 22),
    text menuText labelLeft (baseline n - 5) label,
    pictogram number 20 (baseline n - 14),
    line .line 15 (baseline (n + 1) - 22) 235 (baseline (n + 1) - 22)]

def backRow (selected : Bool) : List Computed :=
  [pictogram Icon.back 20 (baseline 0 - 14),
    fill .black labelLeft (baseline 0 - 5) (width c) (baseline 1 - 22),
    caption c Caption.back labelLeft (baseline 0 - 16),
    line .line 15 (baseline 1 - 22) 235 (baseline 1 - 22)] ++
  if selected then cursorBlock 0 else []

def figure (row : Nat) (f : Figure) (highlighted : Bool) : List Computed :=
  let style : TextStyle := ⟨.font8x8, .white, if highlighted then .selected else .black⟩
  let y := baseline (ofNat row) - 5
  if f.decimals = 0 then [int style 3 (valueLeft + 16) y f.value]
  else [fixed style 3 f.decimals valueLeft y f.value]

def shiftRows (direction : Direction) : List Computed :=
  move direction rowHeight .grey 12 titleHeight (width c - 1) statusTop ::
  match direction with
  | .down => eraseCursor 1 ++ cursorBlock 0
  | .up =>
    let y := baseline (ofNat bottomRow + 1) - 22
    eraseCursor (bottomRow - 1) ++ cursorBlock bottomRow ++ [line .line 18 y 238 y]

def noMedia : List Computed :=
  [fill .red 11 (baseline 3 - 10) (width c - 10) (baseline 4),
    text ⟨.font16x32, .yellow, .red⟩ ((width c - 8 * 16) / 2) (baseline 3) "No Media"]

/-! ### Main menu and print screen -/

def tile (index : Nat) (selected miscPage : Bool) : List Computed :=
  let (x, y) : Coordinate × Coordinate :=
    match index with
    | 0 => (12, 51)
    | 1 => (126, 51)
    | 2 => (12, 178)
    | _ => (126, 178)
  let (number, caption') := Canvas.tilePictures index selected
  [pictogram number x y,
    if index = 3 ∧ miscPage then text menuText (x + 34) (y + 69) "Misc"
    else caption c caption' (x + 1) (y + 69)] ++
  if selected then [outline .white x y (x + 100) (y + 114)] else []

def mainMenu (page : Nat) (miscPage : Bool) : List Computed :=
  clear c ++ caption c Caption.mainMenu 29 1 ::
  (List.range 4).flatMap fun index => tile c index (index == page) miscPage

def printButton (index : Nat) (selected paused : Bool) : List Computed :=
  let (x, x1) : Coordinate × Coordinate :=
    match index with
    | 0 => (12, 78)
    | 1 => (86, 151)
    | _ => (160, 225)
  let (number, caption') := Canvas.printButtonPictures index selected paused
  [fill .black x 191 x1 251, pictogram number x 191, caption c caption' x 225] ++
  if selected then [outline .white x 191 x1 251] else []

def printScreen (file : String) (selected : Nat) (paused : Bool) : List Computed :=
  frame c Caption.printingTitle ++
  [centred c menuText 40 (Text.cutString Canvas.fileNameRoom file),
    pictogram Icon.printTime 117 77,
    pictogram Icon.remainingTime 117 138,
    line .line 15 185 (width c - 15) 185] ++
  (List.range 3).flatMap fun index => printButton c index (index == selected) paused

def hoursAndMinutes (y : Coordinate) (seconds : Nat) : List Computed :=
  [int menuText 2 160 y (min (seconds / 3600) 99 : Nat),
    text menuText 183 y ":",
    int menuText 2 190 y (seconds % 3600 / 60 : Nat)]

def progress (p : Progress) : List Computed :=
  icon animations (Animation.progress + p.percent) 12 75 :: hoursAndMinutes 100 p.elapsed ++
  if p.permille = 0 then [] else hoursAndMinutes 166 p.remaining

def printFinished : List Computed :=
  [band c .grey 0 titleHeight,
    caption c Caption.finishedTitle titleHeight 1,
    icon animations Animation.progress 12 75,
    fill .black 0 185 (width c - 1) statusTop,
    caption c Caption.confirmButton 86 203,
    outline .white 86 203 166 (203 + buttonHeight)]

/-! ### Popups -/

def confirmOrCancel (confirm : Bool) : List Computed :=
  let (first, second) : Color × Color := if confirm then (.white, .popup) else (.popup, .white)
  [fill first 28 152 113 187,
    fill second 128 152 213 187,
    caption c Caption.confirmButton 30 (titleHeight + 130),
    caption c Caption.cancelButton 130 (titleHeight + 130)]

def pauseOrStop (stop confirm : Bool) : List Computed :=
  clearMain c ++
  [caption c (if stop then Caption.stopQuestion else Caption.pauseQuestion) 15 (titleHeight + 50),
    outline .white 15 (titleHeight + 50) 225 195] ++
  confirmOrCancel c confirm

def okButton (y : Coordinate) : List Computed :=
  [caption c Caption.confirmButton 80 y, outline .white 80 y 160 (y + buttonHeight)]

def homingNotice : List Computed :=
  clearMain c ++ [caption c Caption.homing 18 (titleHeight + 60)]

def tooColdNotice : List Computed :=
  clearMain c ++
  [fill .popup 15 (titleHeight + 50) 225 195,
    caption c Caption.hotendTooCold 15 (titleHeight + 50),
    outline .white 15 (titleHeight + 50) 225 195] ++
  okButton c 154

def notAvailableNotice : List Computed :=
  [fill .popup 15 (titleHeight + 50) 225 195,
    outline .white 15 (titleHeight + 50) 225 195,
    text popupText 20 (titleHeight + 55) "Feature not available on",
    text popupText 20 (titleHeight + 75) "the screen yet, please",
    text popupText 20 (titleHeight + 95) "use the host interface."] ++
  okButton c 154

/-- The lines of a message from a height on, and the height after them. -/
def messageLines : Coordinate → List (List Char) → List Computed × Coordinate
  | y, [] => ([], y)
  | y, line :: rest =>
    let (calls, after) := messageLines (y + lineHeight) rest
    (text popupText (padding * 2) y (String.ofList line) :: calls, after)

/-- A message that is broken into lines, with its box and its button. -/
def messageOf (lines : List (List Char)) : List Computed :=
  let boxHeight := lineHeight * ofNat lines.length + buttonHeight + padding * 3
  let top := (height c - titleHeight) / 2 + titleHeight - boxHeight / 2
  let (calls, after) := messageLines (top + padding) lines
  [fill .popup padding top (width c - padding) (top + boxHeight),
    outline .white padding top (width c - padding) (top + boxHeight)] ++
  calls ++ okButton c (after + padding)

/-- The characters that fit a line are counted in 16 bits too. -/
def messageBox (message : String) : List Computed :=
  match ((width c - padding * 4) / characterWidth).value? with
  | none => [none]
  | some columns => messageOf c (Text.wrap message.toList columns)

/-! ### Status area and pages -/

def heater (y : Coordinate) (animation number : Nat) (h : Heater) : List Computed :=
  let textTop := y + 6
  [if h.isHeating then icon animations animation 6 y else pictogram number 6 y,
    int (if h.isHeating then ⟨.font8x8, .yellow, .black⟩ else menuText) 3 26 textTop h.current,
    text menuText (26 + 3 * columnWidth + 4) textTop "/",
    int menuText 3 (26 + 3 * columnWidth + 5) textTop h.target]

def percentage (x y : Coordinate) (number : Nat) (value : Int) : List Computed :=
  [pictogram number x y,
    int menuText 3 (x + 2 * columnWidth) (y + 6) value,
    text menuText (x + 5 * columnWidth + 2) (y + 6) "%"]

def statusArea (s : Status) : List Computed :=
  [band c .black statusTop (height c)] ++
  heater 262 Animation.hotendHeating Icon.hotend s.hotend ++
  heater 294 Animation.bedHeating Icon.bed s.bed ++
  percentage 99 262 Icon.speed s.feedrate ++
  percentage 99 294 Icon.flow s.flow ++
  percentage 165 262 Icon.fan s.fan ++
  [pictogram Icon.zOffset 165 294, fixed menuText 1 3 191 300 s.zOffset]

def machineData (l : Limits) (version website : String) : List Computed :=
  let size := toString l.x.max ++ "x" ++ toString l.y.max ++ "x" ++ toString l.z.max
  frame c Caption.infoTitle ++ backRow c true ++
  [text menuText labelLeft 80 "Bed size",
    pictogram Icon.bedSize 20 90,
    text Canvas.smallText 70 105 size,
    text menuText labelLeft 140 "Firmware",
    pictogram Icon.version 20 140,
    text Canvas.smallText 70 155 version,
    text menuText labelLeft 190 "Contact",
    pictogram Icon.contact 20 200,
    text menuText 50 215 website]

def probeStepBox (index : Nat) (label : String) (selected : Bool) : List Computed :=
  let count := ofNat Canvas.probeStepLabels.length
  let boxWidth := (width c - padding * 2 - (count - 1) * 5) / count
  let left := padding + ofNat index * (boxWidth + 5)
  let top := titleHeight + padding + baseline 0 - 10
  let bottom := titleHeight + padding + baseline 1 - 10
  let textLeft := left + boxWidth / 2 - ofNat label.utf8ByteSize * characterWidth / 2
  [outline (if selected then .yellow else .popup) left top (left + boxWidth) bottom,
    text ⟨.font8x8, if selected then .yellow else .white, .black⟩ textLeft ((top + bottom) / 2 - 4)
      label]

def probeFrame : List Computed :=
  let room := rowHeight - 10
  clear c ++
  [caption c Caption.levelingTitle titleHeight 1,
    text menuText padding (titleHeight + padding) "Step sizes:",
    centred c menuText (height c - room * 2) "Tap to toggle between steps",
    centred c menuText (height c - room) "Long press to confirm"]

def probePage (um : Int) (step : Nat) (outOfRange full : Bool) : List Computed :=
  let windowTop := titleHeight + padding
  let windowWidth := width c - padding * 2
  let heightTop := windowTop + baseline 2 - 10
  let errorTop := windowTop + baseline 3 - 10
  (if full then probeFrame c else []) ++
  (Canvas.probeStepLabels.mapIdx fun i label => probeStepBox c i label (i == step)).flatten ++
  [fill .black padding heightTop (padding + windowWidth) (windowTop + baseline 3 - 10),
    fixed ⟨.font12x24, if outOfRange then .red else .yellow, .black⟩ 3 2
      (windowWidth / 2 - 5 * columnWidth / 2) heightTop (um.tdiv 10),
    fill .black padding errorTop (padding + windowWidth) (windowTop + baseline 4 - 10)] ++
  if outOfRange then [centred c ⟨.font8x8, .red, .black⟩ errorTop "Out of range!"] else []

def iconPage (number : Nat) : List Computed :=
  clear c ++
  [centred c menuText (titleHeight / 2) "Icon finder",
    pictogram number (width c / 2 - 16) (height c / 2 - 16),
    centred c ⟨.font8x8, .yellow, .black⟩ (height c - (characterWidth + 15) * 2)
      ("Icon " ++ toString number),
    centred c menuText (height c - characterWidth - 15) "Press to exit"]

end Drawings

end Coordinate

open Coordinate in
/-- The calls of a part, with their coordinates computed step by step. -/
def Part.computed (c : Canvas) : Part → List Computed
  | frame number => Coordinate.frame c number
  | plainTitle title => clear c ++ [text ⟨.font12x24, .white, .grey⟩ 14 4 title]
  | emptyRows => [band c .black Coordinate.titleHeight Coordinate.statusTop]
  | cursorBlock n => Coordinate.cursorBlock n
  | eraseCursor n => Coordinate.eraseCursor n
  | row n number label => Coordinate.row c n number label
  | backRow selected => Coordinate.backRow c selected
  | figure n f highlighted => Coordinate.figure n f highlighted
  | shiftRows direction => Coordinate.shiftRows c direction
  | noMedia => Coordinate.noMedia c
  | mainMenu page miscPage => Coordinate.mainMenu c page miscPage
  | tile index selected miscPage => Coordinate.tile c index selected miscPage
  | printScreen file selected paused => Coordinate.printScreen c file selected paused
  | printButton index selected paused => Coordinate.printButton c index selected paused
  | progress p => Coordinate.progress p
  | printFinished => Coordinate.printFinished c
  | pauseOrStop stop confirm => Coordinate.pauseOrStop c stop confirm
  | confirmOrCancel confirm => Coordinate.confirmOrCancel c confirm
  | homingNotice => Coordinate.homingNotice c
  | tooColdNotice => Coordinate.tooColdNotice c
  | notAvailableNotice => Coordinate.notAvailableNotice c
  | messageBox message => Coordinate.messageBox c message
  | statusArea s => Coordinate.statusArea c s
  | machineData l version website => Coordinate.machineData c l version website
  | probePage um step outOfRange full => Coordinate.probePage c um step outOfRange full
  | iconPage number => Coordinate.iconPage c number

/-! ### On a panel of 240 by 320 pixels -/

/-- The panel of 240 by 320 pixels. -/
abbrev Canvas.standard (l : Language) : Canvas := ⟨240, 320, l⟩

namespace Canvas

/-- The box for so many lines is centred below the title bar. -/
def messageArea (lines : Nat) : Rect := ⟨15, 134 - 9 * lines, 225, 210 + 9 * lines⟩

/-- A message is broken into eight lines at most. -/
theorem length_le_of_wrap {message : String} {columns : Nat} {lines : List (List Char)}
    (h : Text.wrap message.toList columns = lines) : lines.length ≤ 8 :=
  h ▸ Text.length_wrap_le message.toList columns

/-- The box of a message with its lines, on a panel of 240 by 320 pixels. -/
theorem messageBox_standard (l : Language) {message : String} {lines : List (List Char)}
    (h : Text.wrap message.toList 22 = lines) :
    (standard l).messageBox message =
      [.fill .popup (messageArea lines.length), .outline .white (messageArea lines.length)] ++
      (lines.mapIdx fun i line =>
        .text popupText 30 (149 - 9 * lines.length + 18 * i) (String.ofList line)) ++
      (standard l).okButton (164 + 9 * lines.length) := by
  have hlines := length_le_of_wrap h
  have hcolumns : (standard l).messageColumns = 22 := by simp [messageColumns]
  have hheight : messageBoxHeight lines.length = 76 + 18 * lines.length := by
    change (18 * lines.length + 31 + 15 * 3 : Int) = _
    omega
  have htop : (standard l).messageBoxTop lines.length = 134 - 9 * lines.length := by
    simp only [messageBoxTop, hheight]
    omega
  have harea : (⟨padding, 134 - 9 * lines.length, 240 - padding,
      134 - 9 * lines.length + (76 + 18 * lines.length)⟩ : Rect) = messageArea lines.length := by
    have hbottom : (134 - 9 * lines.length + (76 + 18 * lines.length) : Int) =
        210 + 9 * lines.length := by omega
    rw [hbottom]
    rfl
  have hline (i : Nat) : 134 - 9 * lines.length + padding + lineHeight * i =
      149 - 9 * lines.length + 18 * i := by
    change 134 - 9 * (lines.length : Int) + 15 + 18 * (i : Int) = _
    omega
  have hbutton : 149 - 9 * lines.length + 18 * lines.length + padding =
      164 + 9 * lines.length := by
    change 149 - 9 * (lines.length : Int) + 18 * (lines.length : Int) + 15 = _
    omega
  simp only [messageBox, hcolumns, h, htop, hheight, hline, hbutton]
  rw [← harea]
  rfl

end Canvas

namespace Coordinate

variable (l : Language)

-- The two sizes are rewritten before a computation is evaluated: it gets stuck at the language of
-- the canvas otherwise.
/-- The width that the computations of this panel start from. -/
theorem width_standard : width (.standard l) = 240 := rfl

/-- The height that the computations of this panel start from. -/
theorem height_standard : height (.standard l) = 320 := rfl

/-- Text that is no wider than the panel is centred. -/
theorem centred_eq {style : TextStyle} {y : Coordinate} {n : Nat} {s : String}
    (hy : y.value? = some n) (hs : s.utf8ByteSize * style.font.width ≤ 240) :
    centred (.standard l) style y s = some ((Canvas.standard l).centred style n s) := by
  have hfont : 1 ≤ style.font.width ∧ style.font.width ≤ 16 := by
    cases style.font <;> decide
  have hsize : s.utf8ByteSize ≤ 240 :=
    Nat.le_trans (Nat.le_mul_of_pos_right _ hfont.1) hs
  have hleft : (width (.standard l) - ofNat s.utf8ByteSize * ofNat style.font.width) / 2 =
      ofNat ((240 - s.utf8ByteSize * style.font.width) / 2) := by
    rw [ofNat_mul (by omega) (by omega)]
    change (ofNat 240 - ofNat _) / ofNat 2 = _
    rw [ofNat_sub (by omega) hs, ofNat_div (by omega) (by omega) (by decide)]
  have hshown : min (s.utf8ByteSize % 65536 * style.font.width) 65535 =
      s.utf8ByteSize * style.font.width := by
    rw [Nat.mod_eq_of_lt (by omega)]
    omega
  rw [centred, hleft, ofNat_of_lt (by omega), Canvas.centred, Canvas.centredLeft, hshown, text, hy]
  rfl

/-! ### Rows -/

section Rows

variable {n : Nat} (hn : n ≤ bottomRow)
include hn

/-- The cursor of a row is computed in 16 bits. -/
theorem cursorBlock_eq : cursorBlock n = ((Canvas.standard l).cursorBlock n).map some := by
  change n ≤ 5 at hn
  interval_cases n <;> rfl

/-- The blank in place of a cursor is computed in 16 bits. -/
theorem eraseCursor_eq : eraseCursor n = ((Canvas.standard l).eraseCursor n).map some := by
  change n ≤ 5 at hn
  interval_cases n <;> rfl

/-- A row of a list is computed in 16 bits. -/
theorem row_eq (number : Nat) (label : String) :
    row (.standard l) n number label = ((Canvas.standard l).row n number label).map some := by
  change n ≤ 5 at hn
  interval_cases n <;> rfl

/-- The value in a row is computed in 16 bits. -/
theorem figure_eq (f : Figure) (highlighted : Bool) :
    figure n f highlighted = ((Canvas.standard l).figure n f highlighted).map some := by
  change n ≤ 5 at hn
  unfold figure Canvas.figure
  by_cases hdecimals : f.decimals = 0
  · simp only [hdecimals, if_true]
    interval_cases n <;> rfl
  · simp only [hdecimals, if_false]
    interval_cases n <;> rfl

end Rows

/-- The row that leads back is computed in 16 bits. -/
theorem backRow_eq (selected : Bool) :
    backRow (.standard l) selected = ((Canvas.standard l).backRow selected).map some := by
  cases selected <;> rfl

/-- The area of the rows that move is computed in 16 bits. -/
theorem shiftRows_eq (direction : Direction) :
    shiftRows (.standard l) direction = ((Canvas.standard l).shiftRows direction).map some := by
  cases direction <;> rfl

/-- The notice of a missing medium is computed in 16 bits. -/
theorem noMedia_eq : noMedia (.standard l) = ((Canvas.standard l).noMedia).map some := by
  simp only [noMedia, width_standard]
  rfl

/-! ### Main menu and print screen -/

/-- A tile of the main menu is computed in 16 bits. -/
theorem tile_eq (index : Nat) (selected miscPage : Bool) :
    tile (.standard l) index selected miscPage =
      ((Canvas.standard l).tile index selected miscPage).map some := by
  match index with
  | 0 | 1 | 2 => cases selected <;> rfl
  | 3 => cases selected <;> cases miscPage <;> rfl
  | n + 4 =>
    have hplain : ¬ (n + 4 = 3 ∧ miscPage = true) := by omega
    unfold tile Canvas.tile
    simp only [hplain, if_false]
    cases selected <;> rfl

/-- The main menu is computed in 16 bits. -/
theorem mainMenu_eq (page : Nat) (miscPage : Bool) :
    mainMenu (.standard l) page miscPage =
      ((Canvas.standard l).mainMenu page miscPage).map some := by
  simp only [mainMenu, Canvas.mainMenu, List.map_append, List.map_cons, List.map_flatMap, tile_eq]
  rfl

/-- A button of the print screen is computed in 16 bits. -/
theorem printButton_eq (index : Nat) (selected paused : Bool) :
    printButton (.standard l) index selected paused =
      ((Canvas.standard l).printButton index selected paused).map some := by
  match index with
  | 0 | 1 | n + 2 => cases selected <;> rfl

/-- The file name on the print screen is cut to what the panel has room for. -/
theorem utf8ByteSize_cutString_le (room : Nat) (s : String) :
    (Text.cutString room s).utf8ByteSize ≤ room := by
  have hsize (cs : List Char) : (String.ofList cs).utf8ByteSize = Text.size cs := by
    induction cs with
    | nil => rfl
    | cons c rest ih =>
      rw [String.ofList_cons, String.utf8ByteSize_append, String.utf8ByteSize_singleton, ih,
        Text.size_cons]
  rw [Text.cutString, hsize]
  exact Text.size_cut_le room s.toList

/-- The print screen is computed in 16 bits, with any file name. -/
theorem printScreen_eq (file : String) (selected : Nat) (paused : Bool) :
    printScreen (.standard l) file selected paused =
      ((Canvas.standard l).printScreen file selected paused).map some := by
  have hname := utf8ByteSize_cutString_le Canvas.fileNameRoom file
  have hfits : (Text.cutString Canvas.fileNameRoom file).utf8ByteSize * menuText.font.width ≤ 240 :=
    Nat.le_trans (Nat.mul_le_mul_right 8 hname) (by decide)
  simp only [printScreen, Canvas.printScreen, List.map_append, List.map_cons, List.map_flatMap,
    printButton_eq, centred_eq l (y := 40) rfl hfits, width_standard]
  rfl

/-- The progress of a print is computed in 16 bits. -/
theorem progress_eq (p : Progress) :
    progress p = ((Canvas.standard l).progress p).map some := by
  unfold progress Canvas.progress
  by_cases hnone : p.permille = 0
  · simp only [hnone, if_true]
    rfl
  · simp only [hnone, if_false]
    rfl

/-- The notice of a finished print is computed in 16 bits. -/
theorem printFinished_eq :
    printFinished (.standard l) = ((Canvas.standard l).printFinished).map some := by
  simp only [printFinished, width_standard]
  rfl

/-! ### Popups -/

/-- The two answers to a question are computed in 16 bits. -/
theorem confirmOrCancel_eq (confirm : Bool) :
    confirmOrCancel (.standard l) confirm =
      ((Canvas.standard l).confirmOrCancel confirm).map some := by
  cases confirm <;> rfl

/-- The window with a question is computed in 16 bits. -/
theorem pauseOrStop_eq (stop confirm : Bool) :
    pauseOrStop (.standard l) stop confirm =
      ((Canvas.standard l).pauseOrStop stop confirm).map some := by
  simp only [pauseOrStop, Canvas.pauseOrStop, List.map_append, confirmOrCancel_eq]
  rfl

/-- The lines of a message are computed in 16 bits if the last one still lies in them. -/
theorem messageLines_eq {n : Nat} {lines : List (List Char)}
    (h : n + 18 * lines.length < 65536) :
    messageLines (ofNat n) lines =
      ((lines.mapIdx fun i line =>
        Call.text popupText 30 (n + 18 * i : Nat) (String.ofList line)).map some,
        ofNat (n + 18 * lines.length)) := by
  -- Each line moves the height at which the rest of them begins.
  induction lines generalizing n with
  | nil => rfl
  | cons line rest ih =>
    rw [List.length_cons] at h
    have hnext : ofNat n + lineHeight = ofNat (n + 18) := by
      change ofNat n + ofNat 18 = _
      exact ofNat_add (by omega)
    have hline : text popupText (padding * 2) (ofNat n) (String.ofList line) =
        some (.text popupText 30 n (String.ofList line)) := by
      rw [ofNat_of_lt (by omega)]
      rfl
    have hlater (i : Nat) : n + 18 * (i + 1) = n + 18 + 18 * i := by omega
    rw [messageLines, hnext, ih (by omega), hline, List.mapIdx_cons, List.map_cons,
      List.length_cons]
    simp only [hlater]
    rfl

/-- The button that closes a message is computed in 16 bits. -/
theorem okButton_eq {n : Nat} (h : n < 65505) :
    okButton (.standard l) (ofNat n) = ((Canvas.standard l).okButton n).map some := by
  have hbottom : ofNat n + buttonHeight = ofNat (n + 31) := by
    change ofNat n + ofNat 31 = _
    exact ofNat_add (by omega)
  rw [okButton, hbottom, ofNat_of_lt (by omega), ofNat_of_lt (by omega)]
  rfl

section Box

variable {n : Nat} (hn : n ≤ 8)
include hn

/-- The height of the box for so many lines. -/
theorem boxHeight_eq : lineHeight * ofNat n + buttonHeight + padding * 3 = ofNat (76 + 18 * n) := by
  change ofNat 18 * ofNat n + ofNat 31 + ofNat 45 = _
  rw [ofNat_mul (by omega) (by omega), ofNat_add (by omega), ofNat_add (by omega)]
  congr 1
  omega

/-- The top of the box for so many lines; no step before it is cut off at 0. -/
theorem boxTop_eq :
    (320 - titleHeight) / 2 + titleHeight - ofNat (76 + 18 * n) / 2 = ofNat (134 - 9 * n) := by
  change ofNat 172 - ofNat (76 + 18 * n) / ofNat 2 = _
  rw [ofNat_div (by omega) (by omega) (by omega), ofNat_sub (by omega) (by omega)]
  congr 1
  omega

/-- The box of a message is computed in 16 bits. -/
theorem box_eq :
    [fill .popup padding (ofNat (134 - 9 * n)) (240 - padding)
        (ofNat (134 - 9 * n) + ofNat (76 + 18 * n)),
      outline .white padding (ofNat (134 - 9 * n)) (240 - padding)
        (ofNat (134 - 9 * n) + ofNat (76 + 18 * n))] =
      [some (.fill .popup (Canvas.messageArea n)),
        some (.outline .white (Canvas.messageArea n))] := by
  have hbottom : ofNat (134 - 9 * n) + ofNat (76 + 18 * n) = ⟨some (210 + 9 * n)⟩ := by
    rw [ofNat_add (by omega), ofNat_of_lt (by omega)]
    congr 2
    omega
  have harea : (⟨15, (134 - 9 * n : Nat), 225, (210 + 9 * n : Nat)⟩ : Rect) =
      Canvas.messageArea n := by
    rw [Canvas.messageArea, Rect.mk.injEq]
    omega
  rw [hbottom, ofNat_of_lt (by omega), ← harea]
  rfl

end Box

/-- A message is computed in 16 bits, however long it is. -/
theorem messageBox_eq (message : String) :
    messageBox (.standard l) message = ((Canvas.standard l).messageBox message).map some := by
  generalize h : Text.wrap message.toList 22 = lines
  have hlength := Canvas.length_le_of_wrap h
  have hcolumns : ((240 - padding * 4) / characterWidth).value? = some 22 := rfl
  have htext : ofNat (134 - 9 * lines.length) + padding = ofNat (149 - 9 * lines.length) := by
    change ofNat _ + ofNat 15 = _
    rw [ofNat_add (by omega)]
    congr 1
    omega
  have hroom : 149 - 9 * lines.length + 18 * lines.length < 65536 := by omega
  have hline (i : Nat) : ((149 - 9 * lines.length + 18 * i : Nat) : Int) =
      149 - 9 * lines.length + 18 * i := by omega
  have hbutton : ofNat (149 - 9 * lines.length + 18 * lines.length) + padding =
      ofNat (164 + 9 * lines.length) := by
    change ofNat _ + ofNat 15 = _
    rw [ofNat_add (by omega)]
    congr 1
    omega
  have hok := okButton_eq l (n := 164 + 9 * lines.length) (by omega)
  rw [Canvas.messageBox_standard l h, List.map_append, List.map_append]
  simp only [messageBox, messageOf, width_standard, height_standard, hcolumns, h,
    boxHeight_eq hlength, boxTop_eq hlength, box_eq hlength, htext, messageLines_eq hroom,
    hline, hbutton, hok]
  rfl

/-! ### Status area and pages -/

/-- The status area is computed in 16 bits. -/
theorem statusArea_eq (s : Status) :
    statusArea (.standard l) s = ((Canvas.standard l).statusArea s).map some := by
  unfold statusArea heater Canvas.statusArea Canvas.heater
  cases s.hotend.isHeating <;> cases s.bed.isHeating <;> rfl

/-- The page about the machine is computed in 16 bits. -/
theorem machineData_eq (m : Limits) (version website : String) :
    machineData (.standard l) m version website =
      ((Canvas.standard l).machineData m version website).map some := by
  simp only [machineData, Canvas.machineData, List.map_append, backRow_eq]
  rfl

/-- The box of a step size is computed in 16 bits. -/
theorem probeStepBox_eq {index : Nat} {label : String}
    (h : Canvas.probeStepLabels[index]? = some label) (selected : Bool) :
    probeStepBox (.standard l) index label selected =
      ((Canvas.standard l).probeStepBox index label selected).map some := by
  have hindex : index < 3 := (List.getElem?_eq_some_iff.mp h).1
  -- The boxes have no text from a language, so any language will do.
  change probeStepBox (.standard .english) index label selected =
    ((Canvas.standard .english).probeStepBox index label selected).map some
  interval_cases index <;> cases h <;> cases selected <;> rfl

/-- The boxes of all step sizes are computed in 16 bits. -/
theorem probeStepBoxes_eq (step : Nat) :
    (Canvas.probeStepLabels.mapIdx fun i label =>
      probeStepBox (.standard l) i label (i == step)).flatten =
      (Canvas.probeStepLabels.mapIdx fun i label =>
        (Canvas.standard l).probeStepBox i label (i == step)).flatten.map some := by
  change probeStepBox _ 0 _ _ ++ (probeStepBox _ 1 _ _ ++ (probeStepBox _ 2 _ _ ++ [])) = _
  rw [probeStepBox_eq l rfl, probeStepBox_eq l rfl, probeStepBox_eq l rfl]
  rfl

/-- The frame of the page for probing is computed in 16 bits. -/
theorem probeFrame_eq :
    probeFrame (.standard l) = ((Canvas.standard l).probeFrame).map some := by
  have htap : centred (.standard l) menuText (320 - (rowHeight - 10) * 2)
      "Tap to toggle between steps" =
        some ((Canvas.standard l).centred menuText 262 "Tap to toggle between steps") :=
    centred_eq l rfl (by decide)
  have hpress : centred (.standard l) menuText (320 - (rowHeight - 10)) "Long press to confirm" =
      some ((Canvas.standard l).centred menuText 291 "Long press to confirm") :=
    centred_eq l rfl (by decide)
  simp only [probeFrame, height_standard, htap, hpress]
  rfl

/-- The page for probing is computed in 16 bits, whatever the height. -/
theorem probePage_eq (um : Int) (step : Nat) (outOfRange full : Bool) :
    probePage (.standard l) um step outOfRange full =
      ((Canvas.standard l).probePage um step outOfRange full).map some := by
  have hrefused : centred (.standard l) ⟨.font8x8, .red, .black⟩
      (titleHeight + padding + baseline 3 - 10) "Out of range!" =
        some ((Canvas.standard l).centred ⟨.font8x8, .red, .black⟩ 191 "Out of range!") :=
    centred_eq l rfl (by decide)
  simp only [probePage, Canvas.probePage, List.map_append, probeStepBoxes_eq, probeFrame_eq,
    width_standard, hrefused]
  cases full <;> cases outOfRange <;> rfl

/-- Numbers below 256 have three digits at most. -/
theorem utf8ByteSize_toString_le :
    ∀ number : Fin 256, ("Icon " ++ toString number.val).utf8ByteSize ≤ 8 := by
  decide +kernel

/-- The page of a pictogram is computed in 16 bits. -/
theorem iconPage_eq (number : Fin 256) :
    iconPage (.standard l) number = ((Canvas.standard l).iconPage number).map some := by
  have htitle : centred (.standard l) menuText (titleHeight / 2) "Icon finder" =
      some ((Canvas.standard l).centred menuText 12 "Icon finder") :=
    centred_eq l rfl (by decide)
  have hlabel : centred (.standard l) ⟨.font8x8, .yellow, .black⟩
      (320 - (characterWidth + 15) * 2) ("Icon " ++ toString number.val) =
        some ((Canvas.standard l).centred ⟨.font8x8, .yellow, .black⟩ 274
          ("Icon " ++ toString number.val)) :=
    centred_eq l rfl
      (Nat.le_trans (Nat.mul_le_mul_right 8 (utf8ByteSize_toString_le number)) (by decide))
  have hpress : centred (.standard l) menuText (320 - characterWidth - 15) "Press to exit" =
      some ((Canvas.standard l).centred menuText 297 "Press to exit") :=
    centred_eq l rfl (by decide)
  simp only [iconPage, Canvas.iconPage, width_standard, height_standard, htitle, hlabel, hpress]
  rfl

end Coordinate

open Coordinate in
/-- On a panel of 240 by 320 pixels no step of a computation leaves the 16 bits, and the calls of a
part are those that it is drawn with. -/
theorem Part.computed_eq (l : Language) {part : Part} (h : part.Fits) :
    part.computed (.standard l) = (part.drawing (.standard l)).map some := by
  cases part with
  | cursorBlock n => exact cursorBlock_eq l (h n rfl)
  | eraseCursor n => exact eraseCursor_eq l (h n rfl)
  | row n number label => exact row_eq l (h n rfl) number label
  | figure n f highlighted => exact figure_eq l (h n rfl) f highlighted
  | backRow selected => exact backRow_eq l selected
  | shiftRows direction => exact shiftRows_eq l direction
  | noMedia => exact noMedia_eq l
  | mainMenu page miscPage => exact mainMenu_eq l page miscPage
  | tile index selected miscPage => exact tile_eq l index selected miscPage
  | printScreen file selected paused => exact printScreen_eq l file selected paused
  | printButton index selected paused => exact printButton_eq l index selected paused
  | progress p => exact progress_eq l p
  | printFinished => exact printFinished_eq l
  | pauseOrStop stop confirm => exact pauseOrStop_eq l stop confirm
  | confirmOrCancel confirm => exact confirmOrCancel_eq l confirm
  | messageBox message => exact messageBox_eq l message
  | statusArea s => exact statusArea_eq l s
  | machineData m version website => exact machineData_eq l m version website
  | probePage um step outOfRange full => exact probePage_eq l um step outOfRange full
  | iconPage number => exact iconPage_eq l number
  | frame | plainTitle | emptyRows | homingNotice | tooColdNotice | notAvailableNotice => rfl

end PrinterPanel.Display
