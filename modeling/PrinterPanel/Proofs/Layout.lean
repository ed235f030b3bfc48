import PrinterPanel.Proofs.Compositions
import PrinterPanel.Proofs.Coordinates

/-!
# Layout of the panel

On a panel of 240 by 320 pixels every call stays on the panel, whatever is drawn. Cursor blocks,
rows and edited numbers stay on the six rows, above the status area. A message of any length lies
in its box, and the box lies below the title bar.
-/

namespace PrinterPanel

open Menu (bottomRow)

namespace Display

/-- The rectangle that the coordinates of a call span. For a picture, text or a number it is the
point where that begins. -/
def Call.span? : Call → Option Rect
  | fill _ area | outline _ area | move _ _ _ area => some area
  | line _ x0 y0 x1 y1 => some ⟨x0, y0, x1, y1⟩
  | icon _ _ x y | text _ x y _ | int _ _ x y _ | fixed _ _ _ x y _ => some ⟨x, y, x, y⟩
  | light _ => none

/-- A rectangle with its corners in order lies in another one. -/
def Rect.Within (r s : Rect) : Prop :=
  (s.x0 ≤ r.x0 ∧ r.x0 ≤ r.x1 ∧ r.x1 ≤ s.x1) ∧ s.y0 ≤ r.y0 ∧ r.y0 ≤ r.y1 ∧ r.y1 ≤ s.y1

/-- A rectangle in a rectangle lies in whatever that lies in. -/
theorem Rect.Within.trans {r s t : Rect} (hrs : r.Within s) (hst : s.Within t) : r.Within t := by
  unfold Within at *
  omega

/-- The coordinates of a call lie in a rectangle. -/
def Call.Within (r : Rect) (call : Call) : Prop := ∀ s, call.span? = some s → s.Within r

/-- Upper and lower end of what shows a row of a list: its cursor block, the ground of its label, or
the number beside it. -/
def Call.rowEnds? : Call → Option (Int × Int)
  | fill color area =>
    if color = .cursor ∨ color = .black ∧ area.x0 = labelLeft then some (area.y0, area.y1) else none
  | int _ _ x y _ => if x = 188 then some (y, y + 8) else none
  | fixed _ _ _ x y _ => if x = 172 then some (y, y + 8) else none
  | _ => none

/-- A call that shows a row shows one of the six, above the status area. -/
def Call.OnRow (call : Call) : Prop :=
  ∀ y0 y1, call.rowEnds? = some (y0, y1) →
    ∃ row ≤ bottomRow, baseline row - 18 ≤ y0 ∧ y1 ≤ baseline (row + 1) - 20 ∧ y1 < statusTop

/-- The panel as a rectangle. -/
def Canvas.area (c : Canvas) : Rect := ⟨0, 0, c.width, c.height⟩

/-- The part of the panel that a row of a list takes. -/
def Canvas.rowArea (c : Canvas) (row : Nat) : Rect :=
  ⟨0, baseline row - 18, c.width, baseline (row + 1) - 20⟩

/-- The calls of a drawing lie in a rectangle, and those that show a row are on one of the six. -/
def InPlace (r : Rect) (d : Drawing) : Prop := ∀ call ∈ d, call.Within r ∧ call.OnRow

section InPlace

variable {r s : Rect} {d d' : Drawing}

/-- An empty drawing is in place. -/
@[simp] theorem inPlace_nil : InPlace r [] := fun _ h => nomatch h

/-- A drawing is in place if its first call and the others are. -/
@[simp] theorem inPlace_cons {call : Call} :
    InPlace r (call :: d) ↔ (call.Within r ∧ call.OnRow) ∧ InPlace r d :=
  List.forall_mem_cons

/-- Two drawings are in place together if each of them is. -/
@[simp] theorem inPlace_append : InPlace r (d ++ d') ↔ InPlace r d ∧ InPlace r d' :=
  List.forall_mem_append

/-- A drawing made item by item is in place if that of each item is. -/
@[simp] theorem inPlace_flatMap {α : Type} {items : List α} {f : α → Drawing} :
    InPlace r (items.flatMap f) ↔ ∀ x ∈ items, InPlace r (f x) := List.forall_mem_flatMap

/-- Whether a choice of drawings is in place depends on the one that is chosen. -/
@[simp] theorem inPlace_ite {b : Prop} [Decidable b] :
    InPlace r (if b then d else d') ↔ if b then InPlace r d else InPlace r d' := by
  split <;> rfl

/-- A drawing that is in place is in place in any larger rectangle. -/
theorem InPlace.mono (h : InPlace r d) (hrs : r.Within s) : InPlace s d := by
  intro call hcall
  obtain ⟨hwithin, hrow⟩ := h call hcall
  refine ⟨?_, hrow⟩
  intro span hspan
  exact (hwithin span hspan).trans hrs

end InPlace

namespace Call

variable {style : TextStyle} {r area : Rect} {x y : Int} {color : Color}

/-- A call lies where the rectangle that it spans lies. -/
theorem within_of_span {call : Call} (h : call.span? = some area) :
    call.Within r ↔ area.Within r := by
  simp [Within, h]

/-- A filled area lies where its rectangle lies. -/
@[simp] theorem within_fill : (fill color area).Within r ↔ area.Within r := within_of_span rfl

/-- An outline lies where its rectangle lies. -/
@[simp] theorem within_outline : (outline color area).Within r ↔ area.Within r := within_of_span rfl

/-- A line lies where the rectangle between its ends lies. -/
@[simp] theorem within_line {x0 y0 x1 y1 : Int} :
    (line color x0 y0 x1 y1).Within r ↔ (⟨x0, y0, x1, y1⟩ : Rect).Within r := within_of_span rfl

/-- A pictogram is placed by its corner. -/
@[simp] theorem within_icon (library number : Nat) :
    (icon library number x y).Within r ↔ (⟨x, y, x, y⟩ : Rect).Within r := within_of_span rfl

/-- A text is placed by the point where it begins. -/
@[simp] theorem within_text (s : String) :
    (text style x y s).Within r ↔ (⟨x, y, x, y⟩ : Rect).Within r := within_of_span rfl

/-- An integer is placed by the point where it begins. -/
@[simp] theorem within_int (digits : Nat) (value : Int) :
    (int style digits x y value).Within r ↔ (⟨x, y, x, y⟩ : Rect).Within r := within_of_span rfl

/-- A number with a point is placed by the point where it begins. -/
@[simp] theorem within_fixed (digits decimals : Nat) (value : Int) :
    (fixed style digits decimals x y value).Within r ↔ (⟨x, y, x, y⟩ : Rect).Within r :=
  within_of_span rfl

/-- A moved area lies where its rectangle lies. -/
@[simp] theorem within_move (direction : Direction) (distance : Int) :
    (move direction distance color area).Within r ↔ area.Within r := within_of_span rfl

/-- Where a choice of calls lies depends on the one that is chosen. -/
@[simp] theorem within_ite {b : Prop} [Decidable b] {call call' : Call} :
    (if b then call else call').Within r ↔ if b then call.Within r else call'.Within r := by
  split <;> rfl

/-- A call that shows no row is on no wrong one. -/
theorem onRow_of_none {call : Call} (h : call.rowEnds? = none) : call.OnRow := by
  intro y0 y1 hends
  rw [h] at hends
  contradiction

/-- An outline shows no row. -/
@[simp] theorem onRow_outline : (outline color area).OnRow := onRow_of_none rfl

/-- A line shows no row. -/
@[simp] theorem onRow_line {x0 y0 x1 y1 : Int} : (line color x0 y0 x1 y1).OnRow := onRow_of_none rfl

/-- A pictogram shows no row. -/
@[simp] theorem onRow_icon (library number : Nat) : (icon library number x y).OnRow :=
  onRow_of_none rfl

/-- A text by itself shows no row. -/
@[simp] theorem onRow_text (s : String) : (text style x y s).OnRow := onRow_of_none rfl

/-- Moving an area shows no row. -/
@[simp] theorem onRow_move (direction : Direction) (distance : Int) :
    (move direction distance color area).OnRow := onRow_of_none rfl

/-- A filled area shows no row, unless it is a cursor or the ground of a label. -/
@[simp] theorem onRow_fill {x0 y0 x1 y1 : Int} (hcursor : color ≠ .cursor)
    (hlabel : color = .black → x0 ≠ labelLeft) : (fill color ⟨x0, y0, x1, y1⟩).OnRow := by
  apply onRow_of_none
  rw [rowEnds?, if_neg]
  rintro (h | ⟨hblack, hleft⟩)
  · exact hcursor h
  · exact hlabel hblack hleft

/-- An integer shows no row, unless it stands in the column of the values. -/
@[simp] theorem onRow_int (digits : Nat) (value : Int) (h : x ≠ 188) :
    (int style digits x y value).OnRow := onRow_of_none (if_neg h)

/-- A number with a point shows no row, unless it stands in the column of the values. -/
@[simp] theorem onRow_fixed (digits decimals : Nat) (value : Int) (h : x ≠ 172) :
    (fixed style digits decimals x y value).OnRow := onRow_of_none (if_neg h)

/-- Whether a choice of calls is on a row depends on the one that is chosen. -/
@[simp] theorem onRow_ite {b : Prop} [Decidable b] {call call' : Call} :
    (if b then call else call').OnRow ↔ if b then call.OnRow else call'.OnRow := by
  split <;> rfl

end Call

variable (l : Language)

/-- The area of the panel of 240 by 320 pixels. -/
theorem within_standard {x0 y0 x1 y1 : Int} :
    (⟨x0, y0, x1, y1⟩ : Rect).Within (Canvas.standard l).area ↔
      (0 ≤ x0 ∧ x0 ≤ x1 ∧ x1 ≤ 240) ∧ 0 ≤ y0 ∧ y0 ≤ y1 ∧ y1 ≤ 320 := Iff.rfl

/-- The main area is cleared on the panel. -/
theorem inPlace_clearMain : InPlace (Canvas.standard l).area (Canvas.standard l).clearMain := by
  simp (disch := decide) [Canvas.clearMain, Canvas.clearTitle, Canvas.clearRows, Canvas.band,
    within_standard, titleHeight, statusTop]

/-- The whole panel is cleared. -/
theorem inPlace_clear : InPlace (Canvas.standard l).area (Canvas.standard l).clear := by
  simp (disch := decide) [Canvas.clear, Canvas.clearStatus, Canvas.band, inPlace_clearMain,
    within_standard, statusTop]

/-- The frame of a page is on the panel. -/
theorem inPlace_frame (number : Nat) :
    InPlace (Canvas.standard l).area ((Canvas.standard l).frame number) := by
  simp [Canvas.frame, Canvas.titleCaption, Canvas.caption, inPlace_clearMain, within_standard,
    titleHeight]

/-- Centred text begins on the panel. -/
@[simp] theorem within_centred {y : Int} (hy : 0 ≤ y ∧ y ≤ 320) (style : TextStyle) (s : String) :
    ((Canvas.standard l).centred style y s).Within (Canvas.standard l).area := by
  have hleft : 0 ≤ (Canvas.standard l).centredLeft style.font s ∧
      (Canvas.standard l).centredLeft style.font s ≤ 240 := by
    unfold Canvas.centredLeft
    dsimp only
    omega
  rw [Canvas.centred, Call.within_text, within_standard]
  omega

/-- A centred text shows no row. -/
@[simp] theorem onRow_centred (y : Int) (style : TextStyle) (s : String) :
    ((Canvas.standard l).centred style y s).OnRow := Call.onRow_text s

/-! ### Rows -/

section Rows

variable {n : Nat} (hn : n ≤ bottomRow)
include hn

/-- A row is known by its number. -/
theorem rowNumber_eq : rowNumber n = n := by
  change n ≤ 5 at hn
  unfold rowNumber
  omega

/-- The six rows lie between the title bar and the status area. -/
theorem baseline_le : 45 ≤ baseline n ∧ baseline n ≤ 240 ∧ baseline (n + 1) = baseline n + 39 := by
  change n ≤ 5 at hn
  unfold baseline rowHeight
  omega

/-- A call between the lines around a row is on this row. -/
theorem onRow_of_ends {call : Call} {y0 y1 : Int} (hends : call.rowEnds? = some (y0, y1))
    (htop : baseline n - 18 ≤ y0) (hbottom : y1 ≤ baseline (n + 1) - 20) : call.OnRow := by
  rintro _ _ hends'
  obtain ⟨rfl, rfl⟩ := Prod.mk.inj (Option.some.inj (hends.symm.trans hends'))
  refine ⟨n, hn, htop, hbottom, ?_⟩
  have hbase := baseline_le hn
  unfold statusTop
  omega

/-- A row is a part of the panel. -/
theorem rowArea_within :
    ((Canvas.standard l).rowArea n).Within (Canvas.standard l).area := by
  have hbase := baseline_le hn
  change (⟨0, baseline n - 18, 240, baseline (n + 1) - 20⟩ : Rect).Within _
  rw [within_standard]
  omega

/-- The area of a row. -/
theorem within_rowArea {x0 y0 x1 y1 : Int} :
    (⟨x0, y0, x1, y1⟩ : Rect).Within ((Canvas.standard l).rowArea n) ↔
      (0 ≤ x0 ∧ x0 ≤ x1 ∧ x1 ≤ 240) ∧ baseline n - 18 ≤ y0 ∧ y0 ≤ y1 ∧ y1 ≤ baseline n + 19 := by
  obtain ⟨-, -, hnext⟩ := baseline_le hn
  have hbottom : baseline (n + 1) - 20 = baseline n + 19 := by omega
  rw [← hbottom]
  rfl

/-- The cursor of a row is on the row. -/
theorem inPlace_cursorBlock :
    InPlace ((Canvas.standard l).rowArea n) ((Canvas.standard l).cursorBlock n) := by
  obtain ⟨htop, -, hnext⟩ := baseline_le hn
  have harea : (⟨0, baseline n - 18, 10, baseline (n + 1) - 20⟩ : Rect).Within
      ((Canvas.standard l).rowArea n) := (within_rowArea l hn).mpr (by omega)
  have hrow : (Call.fill .cursor ⟨0, baseline n - 18, 10, baseline (n + 1) - 20⟩).OnRow :=
    onRow_of_ends hn rfl (Int.le_refl _) (Int.le_refl _)
  simp [Canvas.cursorBlock, rowNumber_eq hn, harea, hrow]

/-- The blank in place of a cursor is on the row. -/
theorem inPlace_eraseCursor :
    InPlace ((Canvas.standard l).rowArea n) ((Canvas.standard l).eraseCursor n) := by
  obtain ⟨htop, -, hnext⟩ := baseline_le hn
  have harea : (⟨0, baseline n - 18, 14, baseline (n + 1) - 20⟩ : Rect).Within
      ((Canvas.standard l).rowArea n) := (within_rowArea l hn).mpr (by omega)
  simp (disch := decide) [Canvas.eraseCursor, rowNumber_eq hn, harea]

/-- Pictogram and label of an entry are on the row. -/
theorem inPlace_row (number : Nat) (label : String) :
    InPlace ((Canvas.standard l).rowArea n) ((Canvas.standard l).row n number label) := by
  obtain ⟨htop, -, hnext⟩ := baseline_le hn
  have hground : (⟨labelLeft, baseline n - 5, 240, baseline (n + 1) - 22⟩ : Rect).Within
      ((Canvas.standard l).rowArea n) := by
    rw [within_rowArea l hn, labelLeft]
    omega
  have hlabel : (⟨labelLeft, baseline n - 5, labelLeft, baseline n - 5⟩ : Rect).Within
      ((Canvas.standard l).rowArea n) := by
    rw [within_rowArea l hn, labelLeft]
    omega
  have hpicture : (⟨20, baseline n - 14, 20, baseline n - 14⟩ : Rect).Within
      ((Canvas.standard l).rowArea n) := (within_rowArea l hn).mpr (by omega)
  have hline : (⟨15, baseline (n + 1) - 22, 235, baseline (n + 1) - 22⟩ : Rect).Within
      ((Canvas.standard l).rowArea n) := (within_rowArea l hn).mpr (by omega)
  have hrow : (Call.fill .black ⟨labelLeft, baseline n - 5, 240, baseline (n + 1) - 22⟩).OnRow :=
    onRow_of_ends hn rfl (by dsimp only; omega) (by dsimp only; omega)
  simp [Canvas.row, rowNumber_eq hn, pictogram, hground, hlabel, hpicture, hline, hrow]

/-- The value of an entry is on the row. -/
theorem inPlace_figure (f : Menu.Figure) (highlighted : Bool) :
    InPlace ((Canvas.standard l).rowArea n) ((Canvas.standard l).figure n f highlighted) := by
  have hpoint {x : Int} (hx : 0 ≤ x ∧ x ≤ 240) :
      (⟨x, baseline n - 5, x, baseline n - 5⟩ : Rect).Within ((Canvas.standard l).rowArea n) :=
    (within_rowArea l hn).mpr (by omega)
  obtain ⟨-, -, hnext⟩ := baseline_le hn
  have hwhole (style : TextStyle) (value : Int) :
      (Call.int style 3 188 (baseline n - 5) value).OnRow :=
    onRow_of_ends hn rfl (by omega) (by omega)
  have hfixed (style : TextStyle) (decimals : Nat) (value : Int) :
      (Call.fixed style 3 decimals 172 (baseline n - 5) value).OnRow :=
    onRow_of_ends hn rfl (by omega) (by omega)
  by_cases hdecimals : f.decimals = 0
  · simp [Canvas.figure, rowNumber_eq hn, hdecimals, hwhole, hpoint]
  · simp [Canvas.figure, rowNumber_eq hn, hdecimals, hfixed, hpoint]

end Rows

/-- The entry that leads back is on the first row. -/
theorem inPlace_backRow (selected : Bool) :
    InPlace ((Canvas.standard l).rowArea 0) ((Canvas.standard l).backRow selected) := by
  have hrow : (Call.fill .black ⟨labelLeft, baseline 0 - 5, 240, baseline 1 - 22⟩).OnRow :=
    onRow_of_ends (Nat.zero_le _) rfl (by decide) (by decide)
  have hcursor := inPlace_cursorBlock l (Nat.zero_le bottomRow)
  have hground : (⟨labelLeft, baseline 0 - 5, 240, baseline 1 - 22⟩ : Rect).Within
      ((Canvas.standard l).rowArea 0) :=
    (within_rowArea l (Nat.zero_le _)).mpr (by decide)
  have hpoint {x y : Int} (hx : 0 ≤ x ∧ x ≤ 240) (hy : 27 ≤ y ∧ y ≤ 64) :
      (⟨x, y, x, y⟩ : Rect).Within ((Canvas.standard l).rowArea 0) := by
    rw [within_rowArea l (Nat.zero_le _), Int.natCast_zero, baseline]
    omega
  have hline : (⟨15, baseline 1 - 22, 235, baseline 1 - 22⟩ : Rect).Within
      ((Canvas.standard l).rowArea 0) :=
    (within_rowArea l (Nat.zero_le _)).mpr (by decide)
  cases selected
  · simp (disch := decide) [Canvas.backRow, pictogram, Canvas.caption, hground, hpoint, hline, hrow]
  · simp (disch := decide) [Canvas.backRow, pictogram, Canvas.caption, hground, hpoint, hline, hrow,
      hcursor]

/-- Moving the cursor stays on the panel. -/
theorem inPlace_moveCursor {fromRow toRow : Nat} (hfrom : fromRow ≤ bottomRow)
    (hto : toRow ≤ bottomRow) :
    InPlace (Canvas.standard l).area ((Canvas.standard l).moveCursor fromRow toRow) :=
  inPlace_append.mpr ⟨(inPlace_eraseCursor l hfrom).mono (rowArea_within l hfrom),
    (inPlace_cursorBlock l hto).mono (rowArea_within l hto)⟩

/-- Moving the rows stays on the panel. -/
theorem inPlace_shiftRows (direction : Direction) :
    InPlace (Canvas.standard l).area ((Canvas.standard l).shiftRows direction) := by
  have hup := inPlace_moveCursor l (Nat.sub_le bottomRow 1) (Nat.le_refl bottomRow)
  have hdown := inPlace_moveCursor l (show 1 ≤ bottomRow by decide) (Nat.zero_le bottomRow)
  have harea : (⟨12, titleHeight, 239, statusTop⟩ : Rect).Within (Canvas.standard l).area :=
    (within_standard l).mpr (by decide)
  have hline : (⟨18, baseline (rowNumber bottomRow + 1) - 22, 238,
      baseline (rowNumber bottomRow + 1) - 22⟩ : Rect).Within (Canvas.standard l).area :=
    (within_standard l).mpr (by decide)
  cases direction with
  | up => simp [Canvas.shiftRows, hup, harea, hline]
  | down => simp [Canvas.shiftRows, hdown, harea]

/-- The notice of a missing medium is on the panel. -/
theorem inPlace_noMedia : InPlace (Canvas.standard l).area (Canvas.standard l).noMedia := by
  simp (disch := decide) [Canvas.noMedia, within_standard, baseline, rowHeight]

/-! ### Main menu and print screen -/

/-- The tiles of the main menu begin far enough from the edges of the panel. -/
theorem tileCorner_le (index : Nat) :
    (0 ≤ (Canvas.tileCorner index).1 ∧ (Canvas.tileCorner index).1 ≤ 126) ∧
      0 ≤ (Canvas.tileCorner index).2 ∧ (Canvas.tileCorner index).2 ≤ 178 := by
  unfold Canvas.tileCorner
  split <;> decide

/-- A tile of the main menu is on the panel. -/
theorem inPlace_tile (index : Nat) (selected miscPage : Bool) :
    InPlace (Canvas.standard l).area ((Canvas.standard l).tile index selected miscPage) := by
  have hcorner := tileCorner_le index
  unfold Canvas.tile
  generalize Canvas.tileCorner index = corner at hcorner
  obtain ⟨x, y⟩ := corner
  dsimp only at hcorner
  have hpoint {i j : Int} (hi : 0 ≤ i ∧ i ≤ 34) (hj : 0 ≤ j ∧ j ≤ 69) :
      (⟨x + i, y + j, x + i, y + j⟩ : Rect).Within (Canvas.standard l).area :=
    (within_standard l).mpr (by omega)
  have hpicture : (⟨x, y, x, y⟩ : Rect).Within (Canvas.standard l).area :=
    (within_standard l).mpr (by omega)
  have hframe : (⟨x, y, x + 100, y + 114⟩ : Rect).Within (Canvas.standard l).area :=
    (within_standard l).mpr (by omega)
  cases selected <;> simp [pictogram, Canvas.caption, hpoint, hpicture, hframe]

/-- The main menu is on the panel. -/
theorem inPlace_mainMenu (page : Nat) (miscPage : Bool) :
    InPlace (Canvas.standard l).area ((Canvas.standard l).mainMenu page miscPage) := by
  simp [Canvas.mainMenu, Canvas.caption, inPlace_clear, inPlace_tile, within_standard]

/-- The buttons of the print screen end on the panel, and none of them begins where a label does. -/
theorem printButtonEnds_le (index : Nat) :
    0 ≤ (Canvas.printButtonEnds index).1 ∧
      (Canvas.printButtonEnds index).1 ≤ (Canvas.printButtonEnds index).2 ∧
      (Canvas.printButtonEnds index).2 ≤ 240 ∧ (Canvas.printButtonEnds index).1 ≠ labelLeft := by
  unfold Canvas.printButtonEnds
  split <;> decide

/-- A button of the print screen is on the panel. -/
theorem inPlace_printButton (index : Nat) (selected paused : Bool) :
    InPlace (Canvas.standard l).area ((Canvas.standard l).printButton index selected paused) := by
  have hends := printButtonEnds_le index
  unfold Canvas.printButton
  generalize Canvas.printButtonEnds index = ends at hends
  obtain ⟨x, x1⟩ := ends
  dsimp only at hends
  have hpoint {y : Int} (hy : 0 ≤ y ∧ y ≤ 320) :
      (⟨x, y, x, y⟩ : Rect).Within (Canvas.standard l).area :=
    (within_standard l).mpr (by omega)
  have hground : (⟨x, 191, x1, 251⟩ : Rect).Within (Canvas.standard l).area :=
    (within_standard l).mpr (by omega)
  have hrow : (Call.fill .black ⟨x, 191, x1, 251⟩).OnRow :=
    Call.onRow_fill (by decide) fun _ => hends.2.2.2
  cases selected <;> simp [pictogram, Canvas.caption, hpoint, hground, hrow]

/-- The print screen is on the panel. -/
theorem inPlace_printScreen (file : String) (selected : Nat) (paused : Bool) :
    InPlace (Canvas.standard l).area ((Canvas.standard l).printScreen file selected paused) := by
  simp (disch := decide) [Canvas.printScreen, inPlace_frame, inPlace_printButton, pictogram,
    within_standard]

/-- The progress of a print is on the panel. -/
theorem inPlace_progress (p : Progress) :
    InPlace (Canvas.standard l).area ((Canvas.standard l).progress p) := by
  simp (disch := decide) [Canvas.progress, Canvas.hoursAndMinutes, within_standard]

/-- The notice of a finished print is on the panel. -/
theorem inPlace_printFinished :
    InPlace (Canvas.standard l).area (Canvas.standard l).printFinished := by
  simp (disch := decide) [Canvas.printFinished, Canvas.clearTitle, Canvas.titleCaption,
    Canvas.band, Canvas.caption, Canvas.buttonHeight, titleHeight, statusTop, within_standard]

/-! ### Popups -/

/-- The answers to a question are on the panel. -/
theorem inPlace_confirmOrCancel (confirm : Bool) :
    InPlace (Canvas.standard l).area ((Canvas.standard l).confirmOrCancel confirm) := by
  cases confirm <;>
    simp (disch := decide) [Canvas.confirmOrCancel, Canvas.caption, titleHeight, within_standard]

/-- The window with a question is on the panel. -/
theorem inPlace_pauseOrStop (stop confirm : Bool) :
    InPlace (Canvas.standard l).area ((Canvas.standard l).pauseOrStop stop confirm) := by
  simp [Canvas.pauseOrStop, Canvas.noticeBox, Canvas.caption, inPlace_clearMain,
    inPlace_confirmOrCancel, titleHeight, within_standard]

/-- The button that closes a message is on the panel, if there is room below its top. -/
theorem inPlace_okButton {y : Int} (hy : 0 ≤ y ∧ y ≤ 289) :
    InPlace (Canvas.standard l).area ((Canvas.standard l).okButton y) := by
  have hpoint : (⟨80, y, 80, y⟩ : Rect).Within (Canvas.standard l).area :=
    (within_standard l).mpr (by omega)
  have hframe : (⟨80, y, 160, y + 31⟩ : Rect).Within (Canvas.standard l).area :=
    (within_standard l).mpr (by omega)
  simp [Canvas.okButton, Canvas.caption, Canvas.buttonHeight, hpoint, hframe]

/-- The notice of homing is on the panel. -/
theorem inPlace_homingNotice :
    InPlace (Canvas.standard l).area (Canvas.standard l).homingNotice := by
  simp [Canvas.homingNotice, Canvas.caption, inPlace_clearMain, titleHeight, within_standard]

/-- The warning of a cold hotend is on the panel. -/
theorem inPlace_tooColdNotice :
    InPlace (Canvas.standard l).area (Canvas.standard l).tooColdNotice := by
  simp (disch := decide) [Canvas.tooColdNotice, Canvas.noticeBox, Canvas.caption,
    inPlace_clearMain, inPlace_okButton, titleHeight, within_standard]

/-- The notice that a function is missing is on the panel. -/
theorem inPlace_notAvailableNotice :
    InPlace (Canvas.standard l).area (Canvas.standard l).notAvailableNotice := by
  simp (disch := decide) [Canvas.notAvailableNotice, Canvas.noticeBox, inPlace_okButton,
    titleHeight, within_standard]

/-! ### Messages -/

/-- Height of a character in pixels. -/
def Font.height : Font → Nat
  | font6x12 => 12
  | font8x8 => 8
  | font12x24 => 24
  | font16x32 => 32

/-- The rectangle that a call covers, as far as its coordinates tell: text covers its characters. -/
def Call.cover? : Call → Option Rect
  | text style x y s => some ⟨x, y, x + style.font.width * s.length, y + style.font.height⟩
  | call => call.span?

/-- A call covers nothing outside of a rectangle. -/
def Call.Inside (r : Rect) (call : Call) : Prop := ∀ s, call.cover? = some s → s.Within r

/-- A call that paints inside a rectangle lies in it. -/
theorem Call.Inside.within {r : Rect} {call : Call} (h : call.Inside r) : call.Within r := by
  cases call with
  | text style x y s =>
    have hcover :
        (⟨x, y, x + style.font.width * s.length, y + style.font.height⟩ : Rect).Within r := h _ rfl
    rw [within_text]
    unfold Rect.Within at *
    dsimp only at *
    omega
  | fill | outline | line | icon | int | fixed | light | move => exact h

/-- A call paints inside a rectangle if all that it covers lies in it. -/
theorem Call.inside_of_cover {r area : Rect} {call : Call} (hcover : call.cover? = some area)
    (h : area.Within r) : call.Inside r := by
  rintro _ hcover'
  exact Option.some.inj (hcover.symm.trans hcover') ▸ h

/-- The area of the box for so many lines. -/
theorem within_messageArea {n : Nat} {x0 y0 x1 y1 : Int} :
    (⟨x0, y0, x1, y1⟩ : Rect).Within (Canvas.messageArea n) ↔
      (15 ≤ x0 ∧ x0 ≤ x1 ∧ x1 ≤ 225) ∧ 134 - 9 * n ≤ y0 ∧ y0 ≤ y1 ∧ y1 ≤ 210 + 9 * n := Iff.rfl

/-- The box for at most eight lines lies below the title bar, on the panel. -/
theorem messageArea_within {n : Nat} (hn : n ≤ 8) :
    titleHeight < (Canvas.messageArea n).y0 ∧
      (Canvas.messageArea n).Within (Canvas.standard l).area := by
  constructor
  · change (24 : Int) < 134 - 9 * n
    omega
  · rw [Canvas.messageArea, within_standard]
    omega

/-- No line of a message is wider than its box. -/
theorem inside_messageLine {message : String} {lines : List (List Char)}
    (h : Text.wrap message.toList 22 = lines) {i : Nat} (hi : i < lines.length) :
    (Call.text popupText 30 (149 - 9 * lines.length + 18 * i) (String.ofList lines[i])).Inside
      (Canvas.messageArea lines.length) := by
  have hlength := Canvas.length_le_of_wrap h
  have hwidth : (String.ofList lines[i]).length ≤ 22 := by
    have hmem : lines[i] ∈ Text.wrap message.toList 22 := by
      rw [h]
      exact List.getElem_mem hi
    rw [String.length_ofList]
    exact Text.length_le_of_mem_wrap hmem
  apply Call.inside_of_cover rfl
  change (⟨30, _, 30 + (8 : Nat) * _, _ + (8 : Nat)⟩ : Rect).Within _
  rw [within_messageArea]
  omega

/-- The button of a message is inside the box, below the lines. -/
theorem inside_messageButton {n : Nat} (hn : n ≤ 8) :
    ∀ call ∈ (Canvas.standard l).okButton (164 + 9 * n),
      call.Inside (Canvas.messageArea n) ∧ call.OnRow := by
  have hcaption : (⟨80, 164 + 9 * n, 80, 164 + 9 * n⟩ : Rect).Within (Canvas.messageArea n) :=
    within_messageArea.mpr (by omega)
  have hframe : (⟨80, 164 + 9 * n, 160, 164 + 9 * n + 31⟩ : Rect).Within (Canvas.messageArea n) :=
    within_messageArea.mpr (by omega)
  intro call hcall
  obtain rfl | hlast := List.mem_cons.mp hcall
  · exact ⟨Call.inside_of_cover rfl hcaption, Call.onRow_icon _ _⟩
  · obtain rfl := List.mem_singleton.mp hlast
    exact ⟨Call.inside_of_cover rfl hframe, Call.onRow_outline⟩

/-- Box, lines and button of a message are inside the box, and none of them shows a row. -/
theorem inside_messageBox {message : String} {lines : List (List Char)}
    (h : Text.wrap message.toList 22 = lines) :
    ∀ call ∈ (Canvas.standard l).messageBox message,
      call.Inside (Canvas.messageArea lines.length) ∧ call.OnRow := by
  have hlength := Canvas.length_le_of_wrap h
  have harea : (Canvas.messageArea lines.length).Within (Canvas.messageArea lines.length) :=
    within_messageArea.mpr (by omega)
  intro call hcall
  rw [Canvas.messageBox_standard l h] at hcall
  obtain hrest | hbutton := List.mem_append.mp hcall
  · obtain hbox | hline := List.mem_append.mp hrest
    · obtain rfl | hframe := List.mem_cons.mp hbox
      · exact ⟨Call.inside_of_cover rfl harea, Call.onRow_fill (by decide) (by decide)⟩
      · obtain rfl := List.mem_singleton.mp hframe
        exact ⟨Call.inside_of_cover rfl harea, Call.onRow_outline⟩
    · obtain ⟨i, hi, rfl⟩ := List.mem_mapIdx.mp hline
      exact ⟨inside_messageLine h hi, Call.onRow_text _⟩
  · exact inside_messageButton l hlength call hbutton

/-- The box of any message is on the panel. -/
theorem inPlace_messageBox (message : String) :
    InPlace (Canvas.standard l).area ((Canvas.standard l).messageBox message) := by
  have hlength := Canvas.length_le_of_wrap (rfl : Text.wrap message.toList 22 = _)
  have hbox : InPlace (Canvas.messageArea (Text.wrap message.toList 22).length)
      ((Canvas.standard l).messageBox message) := by
    intro call hcall
    obtain ⟨hinside, hrow⟩ := inside_messageBox l rfl call hcall
    exact ⟨hinside.within, hrow⟩
  exact hbox.mono (messageArea_within l hlength).2

/-! ### Status area and pages -/

/-- The line of a heater is on the panel, if its height is. -/
theorem inPlace_heater {y : Int} (hy : 0 ≤ y ∧ y ≤ 314) (animation number : Nat) (h : Heater) :
    InPlace (Canvas.standard l).area ((Canvas.standard l).heater y animation number h) := by
  have hpicture : (⟨6, y, 6, y⟩ : Rect).Within (Canvas.standard l).area :=
    (within_standard l).mpr (by omega)
  have htext {x : Int} (hx : 0 ≤ x ∧ x ≤ 240) :
      (⟨x, y + 6, x, y + 6⟩ : Rect).Within (Canvas.standard l).area :=
    (within_standard l).mpr (by omega)
  simp (disch := decide) [Canvas.heater, pictogram, hpicture, htext]

/-- The status area is on the panel, whatever is reported. -/
theorem inPlace_statusArea (s : Status) :
    InPlace (Canvas.standard l).area ((Canvas.standard l).statusArea s) := by
  simp (disch := decide) [Canvas.statusArea, Canvas.clearStatus, Canvas.band, inPlace_heater,
    Canvas.percentage, pictogram, statusTop, within_standard]

/-- The page about the machine is on the panel. -/
theorem inPlace_machineData (m : Limits) (version website : String) :
    InPlace (Canvas.standard l).area
      ((Canvas.standard l).machineData m version website) := by
  have hback := (inPlace_backRow l true).mono (rowArea_within l (Nat.zero_le _))
  simp [Canvas.machineData, inPlace_frame, hback, pictogram, labelLeft, within_standard]

/-- The box of a step size is on the panel. -/
theorem inPlace_probeStepBox {index : Nat} {label : String}
    (h : Canvas.probeStepLabels[index]? = some label) (selected : Bool) :
    InPlace (Canvas.standard l).area
      ((Canvas.standard l).probeStepBox index label selected) := by
  have hindex : index < 3 := (List.getElem?_eq_some_iff.mp h).1
  have hlabel : label.utf8ByteSize ≤ 4 := by
    interval_cases index <;> cases h <;> decide
  have hwidth : ((Canvas.standard l).width : Int) = 240 := rfl
  unfold Canvas.probeStepBox baseline rowHeight
  rw [hwidth]
  refine inPlace_cons.mpr ⟨⟨Call.within_outline.mpr ?_, Call.onRow_outline⟩,
    inPlace_cons.mpr ⟨⟨(Call.within_text _).mpr ?_, Call.onRow_text _⟩, inPlace_nil⟩⟩
  · rw [within_standard]
    omega
  · rw [within_standard]
    omega

/-- The frame of the page for probing is on the panel. -/
theorem inPlace_probeFrame : InPlace (Canvas.standard l).area (Canvas.standard l).probeFrame := by
  simp (disch := decide) [Canvas.probeFrame, inPlace_clear, Canvas.titleCaption, Canvas.caption,
    titleHeight, within_standard]

/-- The page for probing is on the panel. -/
theorem inPlace_probePage (um : Int) (step : Nat) (outOfRange full : Bool) :
    InPlace (Canvas.standard l).area
      ((Canvas.standard l).probePage um step outOfRange full) := by
  have hboxes : InPlace (Canvas.standard l).area (Canvas.probeStepLabels.mapIdx fun i label =>
      (Canvas.standard l).probeStepBox i label (i == step)).flatten := by
    change InPlace _ (Canvas.probeStepBox _ 0 _ _ ++ (Canvas.probeStepBox _ 1 _ _ ++
      (Canvas.probeStepBox _ 2 _ _ ++ [])))
    simp only [inPlace_append]
    exact ⟨inPlace_probeStepBox l rfl _, inPlace_probeStepBox l rfl _,
      inPlace_probeStepBox l rfl _, inPlace_nil⟩
  cases outOfRange <;>
    simp (disch := decide) [Canvas.probePage, inPlace_probeFrame, hboxes, baseline, rowHeight,
      within_standard]

/-- The page of a pictogram is on the panel. -/
theorem inPlace_iconPage (number : Nat) :
    InPlace (Canvas.standard l).area ((Canvas.standard l).iconPage number) := by
  simp (disch := decide) [Canvas.iconPage, inPlace_clear, pictogram, within_standard]

/-! ### All parts -/

/-- A part that stands on a row stays on it. -/
theorem Part.inPlace_row {part : Part} (h : part.Fits) {n : Nat} (hrow : part.row? = some n) :
    InPlace ((Canvas.standard l).rowArea n) (part.drawing (.standard l)) := by
  have hn := h n hrow
  cases part with
  | cursorBlock m =>
    obtain rfl := Option.some.inj hrow
    exact inPlace_cursorBlock l hn
  | eraseCursor m =>
    obtain rfl := Option.some.inj hrow
    exact inPlace_eraseCursor l hn
  | row m number label =>
    obtain rfl := Option.some.inj hrow
    exact Display.inPlace_row l hn number label
  | backRow selected =>
    obtain rfl := Option.some.inj hrow
    exact inPlace_backRow l selected
  | figure m f highlighted =>
    obtain rfl := Option.some.inj hrow
    exact inPlace_figure l hn f highlighted
  | _ => contradiction

/-- Every part is on the panel, and what shows a row is on one of the six. -/
theorem Part.inPlace {part : Part} (h : part.Fits) :
    InPlace (Canvas.standard l).area (part.drawing (.standard l)) := by
  cases hrow : part.row? with
  | some n => exact (inPlace_row l h hrow).mono (rowArea_within l (h n hrow))
  | none =>
    cases part with
    | frame number => exact inPlace_frame l number
    | plainTitle title => simp [drawing, Canvas.titleText, inPlace_clear, within_standard]
    | emptyRows =>
      simp (disch := decide) [drawing, Canvas.clearRows, Canvas.band, titleHeight, statusTop,
        within_standard]
    | cursorBlock | eraseCursor | row | backRow | figure => contradiction
    | shiftRows direction => exact inPlace_shiftRows l direction
    | noMedia => exact inPlace_noMedia l
    | mainMenu page miscPage => exact inPlace_mainMenu l page miscPage
    | tile index selected miscPage => exact inPlace_tile l index selected miscPage
    | printScreen file selected paused => exact inPlace_printScreen l file selected paused
    | printButton index selected paused => exact inPlace_printButton l index selected paused
    | progress p => exact inPlace_progress l p
    | printFinished => exact inPlace_printFinished l
    | pauseOrStop stop confirm => exact inPlace_pauseOrStop l stop confirm
    | confirmOrCancel confirm => exact inPlace_confirmOrCancel l confirm
    | homingNotice => exact inPlace_homingNotice l
    | tooColdNotice => exact inPlace_tooColdNotice l
    | notAvailableNotice => exact inPlace_notAvailableNotice l
    | messageBox message => exact inPlace_messageBox l message
    | statusArea s => exact inPlace_statusArea l s
    | machineData m version website => exact inPlace_machineData l m version website
    | probePage um step outOfRange full => exact inPlace_probePage l um step outOfRange full
    | iconPage number => exact inPlace_iconPage l number

/-! ### What a run draws -/

/-- The calls of a drawing that do not set the backlight. -/
def strokes (d : Drawing) : Drawing := d.filter fun call => call.level?.isNone

/-- The strokes of two drawings come one after the other. -/
@[simp] theorem strokes_append (d d' : Drawing) : strokes (d ++ d') = strokes d ++ strokes d' :=
  List.filter_append ..

/-- A drawing that does not touch the light is all strokes. -/
theorem strokes_of_unlit {d : Drawing} (h : Unlit d) : strokes d = d := by
  apply List.filter_eq_self.mpr
  intro call hcall
  rw [h call hcall]
  rfl

/-- The backlight is no stroke. -/
theorem strokes_of_light {d : Drawing} {level : Nat} (h : d ⊆ [.light level]) : strokes d = [] := by
  apply List.filter_eq_nil_iff.mpr
  intro call hcall
  obtain rfl := List.mem_singleton.mp (h hcall)
  simp [Call.level?]

/-- A drawing is in place if its strokes are. -/
theorem inPlace_of_strokes {r : Rect} {d : Drawing} (h : InPlace r (strokes d)) : InPlace r d := by
  intro call hcall
  cases call with
  | light level => exact ⟨(fun _ hspan => nomatch hspan), Call.onRow_of_none rfl⟩
  | fill | outline | line | icon | text | int | fixed | move =>
    exact h _ (List.mem_filter.mpr ⟨hcall, rfl⟩)

end Display

open Display (Canvas Part Rect InPlace strokes titleHeight statusTop)

/-- From a scene on, a scene shows what was there and then parts. -/
theorem Scene.Composes.strokes {c : Canvas} {s t : Scene} (h : s.Composes c t)
    (hs : strokes (drawnCalls s.events) = []) : c.Composed (strokes (drawnCalls t.events)) := by
  obtain ⟨-, -, d, hd, hevents⟩ := h
  have hunlit := Display.strokes_of_unlit (hd.forall_mem fun part _ => part.unlit)
  rwa [hevents, Display.strokes_append, hs, List.nil_append, hunlit]

namespace Panel

variable {p : Panel} {c : Canvas}

/-- Apart from the backlight, an operation draws parts. -/
theorem perform_strokes (h : p.Drawable c) (op : Operation) (a : Answers) :
    c.Composed (strokes (drawnCalls (p.perform op a).events)) := by
  by_cases hop : op = .start
  · subst hop
    refine (perform_start_composes h a).1.strokes ?_
    rw [Scene.drawnCalls_afterCalls]
    exact Display.strokes_of_light (a.lit_subset 0 _)
  · obtain ⟨t, hcomposes, -, hperform⟩ := perform_composes (a := a) h hop
    have ht : c.Composed (strokes (drawnCalls t.events)) := by
      refine hcomposes.strokes ?_
      unfold Scene.attended
      split
      · rfl
      · rw [Act.woken, Scene.drawnCalls_afterCalls]
        exact Display.strokes_of_light (Scene.waking_subset _ a)
    have hdimming : strokes (t.dimming a) = [] := Display.strokes_of_light (t.dimming_subset a)
    have hcounted : drawnCalls (t.counted a).events = drawnCalls t.events ++ t.dimming a :=
      Scene.drawnCalls_afterCalls _ _ _
    rw [hperform]
    split
    · rwa [hcounted, Display.strokes_append, hdimming, List.append_nil]
    · exact ht

/-- Apart from the backlight, a run draws parts. -/
theorem run_strokes (h : p.Drawable c) (ops : List (Operation × Answers)) :
    c.Composed (strokes (drawnCalls (p.run ops).2)) := by
  induction ops generalizing p with
  | nil => exact .nil
  | cons x rest ih =>
    obtain ⟨op, a⟩ := x
    have hnext : (p.perform op a).panel.Drawable c :=
      (invariant_drawable c).perform (fun _ => h.shows .mainMenu) h
    have hrun := (perform_strokes h op a).append (ih hnext)
    rw [run, drawnCalls_append, Display.strokes_append]
    exact hrun

/-- On a panel of 240 by 320 pixels a run draws parts, apart from the backlight, and every part is
computed without a step that leaves the 16 bits. Calls stay on the panel with their corners in
order, and cursor blocks, rows and edited numbers stay on the six rows above the status area; a call
that fails belongs to a part as well. The box of a message lies below the title bar and on the
panel, with its lines and its button inside. -/
theorem run_layout (s : Settings) (ops : List (Operation × Answers)) :
    let c := Canvas.standard s.language
    let calls := drawnCalls ((ofSettings s 240 320).run ops).2
    c.Composed (strokes calls) ∧ InPlace c.area calls ∧
      (∀ part : Part, part.Fits →
        part.computed c = (part.drawing c).map some ∧ InPlace c.area (part.drawing c) ∧
        ∀ row, part.row? = some row →
          (c.rowArea row).y1 < statusTop ∧ InPlace (c.rowArea row) (part.drawing c)) ∧
      ∀ message : String,
        let lines := Text.wrap message.toList c.messageColumns
        let area := Canvas.messageArea lines.length
        (titleHeight < area.y0 ∧ area.Within c.area) ∧
        c.messageBox message = [.fill .popup area, .outline .white area] ++
          (lines.mapIdx fun i line =>
            .text Display.popupText 30 (149 - 9 * lines.length + 18 * i) (String.ofList line)) ++
          c.okButton (164 + 9 * lines.length) ∧
        ∀ call ∈ c.messageBox message, call.Inside area := by
  intro c calls
  have hdrawable : (ofSettings s 240 320).Drawable c := drawable_ofSettings s 240 320
  -- What holds of every part holds of the run, since the backlight has no place on the panel.
  have hcomposed : c.Composed (strokes calls) := run_strokes hdrawable ops
  have hinPlace (part : Part) (hpart : part.Fits) : InPlace c.area (part.drawing c) :=
    Part.inPlace s.language hpart
  refine ⟨hcomposed, Display.inPlace_of_strokes (hcomposed.forall_mem hinPlace),
    fun part hpart => ⟨Part.computed_eq s.language hpart, hinPlace part hpart, ?_⟩, ?_⟩
  · intro row hrow
    obtain ⟨-, hlow, hnext⟩ := Display.baseline_le (hpart row hrow)
    refine ⟨?_, Part.inPlace_row s.language hpart hrow⟩
    change Display.baseline (row + 1) - 20 < 260
    omega
  · intro message lines area
    have hcolumns : c.messageColumns = 22 := by simp [c, Canvas.messageColumns]
    have hlines : Text.wrap message.toList 22 = lines := hcolumns ▸ rfl
    exact ⟨Display.messageArea_within s.language (Canvas.length_le_of_wrap hlines),
      Canvas.messageBox_standard s.language hlines,
      fun call hcall => (Display.inside_messageBox s.language hlines call hcall).1⟩

end Panel

end PrinterPanel
