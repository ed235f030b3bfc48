import Mathlib.Logic.Function.Basic
import PrinterPanel.Display.Rows
import PrinterPanel.Proofs.Replay

/-!
# A screen of rows

What display calls leave in the rows of a list: each row shows at most one mark in each of its
places, and a cursor block stands beside it or not. A mark is kept as it would stand in the top row,
so that a row keeps its content when it is moved.
-/

namespace PrinterPanel.Display

open Menu (bottomRow Figure)

/-- Where in its row a mark stands. -/
inductive Place where
  | picture | label | number | rule
  deriving DecidableEq, Repr

namespace Call

/-- The place that a mark takes in its row. -/
def place : Call → Option Place
  | icon _ _ x _ => some (if x < labelLeft then .picture else .label)
  | text _ _ _ _ => some .label
  | int _ _ _ _ _ | fixed _ _ _ _ _ _ => some .number
  | line _ _ _ _ _ => some .rule
  | fill _ _ | outline _ _ | light _ | move _ _ _ _ => none

/-- A mark that is moved by nothing stays. -/
@[simp] theorem lowered_zero (m : Call) : m.lowered 0 = m := by
  cases m <;> simp [lowered]

/-- A mark that is moved twice is moved by both distances. -/
@[simp] theorem lowered_lowered (m : Call) (dy dy' : Int) :
    (m.lowered dy).lowered dy' = m.lowered (dy + dy') := by
  cases m <;> simp [lowered, Int.add_assoc]

/-- The corner of a mark is moved with it. -/
theorem corner_lowered {m : Call} {x y : Int} (h : m.corner = some (x, y)) (dy : Int) :
    (m.lowered dy).corner = some (x, y + dy) := by
  cases m <;> simp_all [corner, lowered]

end Call

/-- The part of the panel that the top row takes. -/
def Canvas.topRow (c : Canvas) : Rect := ⟨0, titleHeight, c.width - 1, titleHeight + rowHeight - 1⟩

/-- A mark of a row, as it would stand in the top row. -/
structure RowMark (c : Canvas) where
  call : Call
  inside : call.LiesIn c.topRow
  deriving DecidableEq

/-- What a row shows in its places. -/
abbrev RowContent (c : Canvas) := Place → Option (RowMark c)

/-- The rows of a list and the cursor blocks beside them. -/
@[ext]
structure RowScreen (c : Canvas) where
  row : Nat → RowContent c
  cursor : Nat → Bool

variable {c : Canvas}

/-- The mark as it stands in a row. -/
def RowMark.lowered (m : RowMark c) (row : Nat) : Call := m.call.lowered (rowHeight * row)

namespace RowContent

/-- A row that shows nothing. -/
def blank : RowContent c := fun _ => none

/-- A mark is drawn into a row and replaces what its place has shown. A mark that begins outside of
the row is not seen. -/
def put (k : RowContent c) (m : Call) : RowContent c := fun place =>
  if h : m.place = some place ∧ m.LiesIn c.topRow then some ⟨m, h.2⟩ else k place

/-- Every mark that the row shows has a property. -/
def All (p : Call → Prop) (k : RowContent c) : Prop := ∀ place m, k place = some m → p m.call

variable {p : Call → Prop} {k : RowContent c}

/-- A row that shows nothing has every property of its marks. -/
theorem all_blank : All p (blank : RowContent c) := by
  intro place m hm
  cases hm

/-- A property of the marks of a row is kept by a mark that has it. -/
theorem All.put (h : All p k) {m : Call} (hm : p m) : All p (k.put m) := by
  intro place m' hput
  unfold RowContent.put at hput
  split at hput
  · cases hput
    exact hm
  · exact h place m' hput

/-- A property of the marks of a row is kept by marks that have it. -/
theorem All.foldl_put (h : All p k) {marks : Drawing} (hmarks : ∀ m ∈ marks, p m) :
    All p (marks.foldl RowContent.put k) := by
  induction marks generalizing k with
  | nil => exact h
  | cons m rest ih =>
    obtain ⟨hm, hrest⟩ := List.forall_mem_cons.mp hmarks
    exact ih (h.put hm) hrest

end RowContent

/-- The row that a height belongs to. -/
def rowAt (y : Int) : Nat := ((y - titleHeight) / rowHeight).toNat

/-- A filled area covers the cursor block of a row, as far as that is on the panel. -/
def Canvas.CoversCursor (c : Canvas) (area : Rect) (row : Nat) : Prop :=
  area.x0 ≤ 0 ∧ min 10 (c.width : Int) ≤ area.x1 ∧
    area.y0 ≤ baseline row - 18 ∧ baseline (row + 1) - 20 ≤ area.y1

instance (area : Rect) (row : Nat) : Decidable (c.CoversCursor area row) :=
  inferInstanceAs (Decidable (_ ∧ _ ∧ _ ∧ _))

/-- The row from which the content of a row comes when the picture is moved by some rows. -/
def sourceRow (direction : Direction) (rows row : Nat) : Option Nat :=
  match direction with
  | .up => some (row + rows)
  | .down => if rows ≤ row then some (row - rows) else none

namespace RowScreen

/-- The screen with other content in one row. -/
def setRow (s : RowScreen c) (row : Nat) (k : RowContent c) : RowScreen c :=
  { s with row := Function.update s.row row k }

/-- The screen after a call. A filled area takes away the marks that begin in it and decides on the
cursor blocks that it covers. A moved area takes the marks that begin in it along, as far as they
stay in it; the column of the cursor is moved only with an area that begins at the left end. -/
def paint (s : RowScreen c) : Call → RowScreen c
  | .fill color area =>
    { row := fun row place =>
        (s.row row place).filter fun m => ¬ (m.lowered row).LiesIn area
      cursor := fun row =>
        if c.CoversCursor area row then color = .cursor else s.cursor row }
  | .move direction distance _ area =>
    let source := sourceRow direction (distance / rowHeight).toNat
    { row := fun row place =>
        let arriving := (source row).bind fun from' => (s.row from' place).filter fun m =>
          (m.lowered from').LiesIn area ∧ (m.lowered row).LiesIn area
        arriving.or ((s.row row place).filter fun m => ¬ (m.lowered row).LiesIn area)
      cursor := fun row =>
        if area.x0 ≤ 0 then ((source row).map s.cursor).getD false else s.cursor row }
  | .light _ => s
  | m =>
    match m.corner with
    | none => s
    | some (_, y) =>
      s.setRow (rowAt y) ((s.row (rowAt y)).put (m.lowered (-(rowHeight * rowAt y))))

/-- The screen after more calls. -/
def replay (s : RowScreen c) (calls : Drawing) : RowScreen c := calls.foldl paint s

/-- Without calls the screen stays as it is. -/
@[simp] theorem replay_nil (s : RowScreen c) : s.replay [] = s := rfl

/-- The first call is replayed before the others. -/
@[simp] theorem replay_cons (s : RowScreen c) (call : Call) (rest : Drawing) :
    s.replay (call :: rest) = (s.paint call).replay rest := rfl

/-- Drawings are replayed one after the other. -/
@[simp] theorem replay_append (s : RowScreen c) (first second : Drawing) :
    s.replay (first ++ second) = (s.replay first).replay second :=
  List.foldl_append

/-- A row shows what it is given. -/
theorem setRow_row (s : RowScreen c) (row : Nat) (k : RowContent c) :
    (s.setRow row k).row row = k := Function.update_self ..

/-- The other rows are left alone. -/
theorem setRow_row_of_ne {row row' : Nat} (h : row' ≠ row) (s : RowScreen c) (k : RowContent c) :
    (s.setRow row k).row row' = s.row row' := Function.update_of_ne h ..

/-- What a row is given last counts. -/
theorem setRow_setRow (s : RowScreen c) (row : Nat) (k k' : RowContent c) :
    (s.setRow row k).setRow row k' = s.setRow row k' := by
  simp [setRow]

end RowScreen

/-! ### Where marks stand -/

/-- The corner of a mark lies in the top row. -/
theorem RowMark.exists_corner (m : RowMark c) : ∃ x y, m.call.corner = some (x, y) ∧
    0 ≤ x ∧ x < c.width ∧ titleHeight ≤ y ∧ y < titleHeight + rowHeight := by
  obtain ⟨x, y, hcorner, hx0, hx1, hy0, hy1⟩ := m.inside
  simp only [Canvas.topRow] at hx0 hx1 hy0 hy1
  exact ⟨x, y, hcorner, hx0, by omega, hy0, by omega⟩

/-- A mark lies where its corner is in its row. -/
theorem RowMark.lowered_liesIn {m : RowMark c} {x y : Int} (h : m.call.corner = some (x, y))
    (row : Nat) (area : Rect) :
    (m.lowered row).LiesIn area ↔ area.Contains x (y + rowHeight * row) :=
  Call.liesIn_iff (Call.corner_lowered h _) area

/-- A mark begins left of the labels. -/
def Call.LeftOfLabels (m : Call) : Prop := ∃ x y, m.corner = some (x, y) ∧ x < labelLeft

/-- A mark begins within the height of the top row. -/
def Call.OnTop (m : Call) : Prop :=
  ∃ x y, m.corner = some (x, y) ∧ titleHeight ≤ y ∧ y < titleHeight + rowHeight

/-- A height within a row belongs to that row. -/
theorem rowAt_add {y : Int} (h : titleHeight ≤ y ∧ y < titleHeight + rowHeight) (row : Nat) :
    rowAt (y + rowHeight * row) = row := by
  simp only [rowAt, titleHeight, rowHeight] at *
  omega

namespace RowScreen

/-- A mark that is drawn into a row. -/
theorem paint_lowered {m : Call} (h : m.OnTop) (s : RowScreen c) (row : Nat) :
    s.paint (m.lowered (rowHeight * row)) = s.setRow row ((s.row row).put m) := by
  obtain ⟨x, y, hcorner, hy⟩ := h
  have hlowered := Call.corner_lowered hcorner (rowHeight * row)
  have hpaint : s.paint (m.lowered (rowHeight * row)) =
      s.setRow (rowAt (y + rowHeight * row)) ((s.row (rowAt (y + rowHeight * row))).put
        ((m.lowered (rowHeight * row)).lowered (-(rowHeight * rowAt (y + rowHeight * row))))) := by
    cases m <;> simp_all [paint, Call.corner, Call.lowered]
  rw [hpaint, rowAt_add hy, Call.lowered_lowered, Int.add_right_neg, Call.lowered_zero]

/-- Marks that are drawn into a row, one after the other. -/
theorem replay_lowered {marks : Drawing} (h : ∀ m ∈ marks, m.OnTop) (s : RowScreen c) (row : Nat) :
    s.replay (marks.map (Call.lowered (rowHeight * row))) =
      s.setRow row (marks.foldl RowContent.put (s.row row)) := by
  induction marks generalizing s with
  | nil => simp [setRow]
  | cons m rest ih =>
    obtain ⟨hm, hrest⟩ := List.forall_mem_cons.mp h
    rw [List.map_cons, replay_cons, paint_lowered hm, ih hrest, setRow_row, setRow_setRow,
      List.foldl_cons]

section Fill

variable {s : RowScreen c} {color : Color} {area : Rect} {row : Nat} {place : Place}

/-- A filled area leaves what begins outside of it. -/
theorem paint_fill_of_out (h : ∀ m, s.row row place = some m → ¬ (m.lowered row).LiesIn area) :
    (s.paint (.fill color area)).row row place = s.row row place := by
  cases hm : s.row row place with
  | none => simp [paint, hm]
  | some m => simp [paint, hm, h m hm]

/-- A filled area takes away what begins in it. -/
theorem paint_fill_of_in (h : ∀ m, s.row row place = some m → (m.lowered row).LiesIn area) :
    (s.paint (.fill color area)).row row place = none := by
  cases hm : s.row row place with
  | none => simp [paint, hm]
  | some m => simp [paint, hm, h m hm]

/-- What is left after an area is filled was there before and begins outside of it. -/
theorem of_paint_fill {m : RowMark c}
    (h : (s.paint (.fill color area)).row row place = some m) :
    s.row row place = some m ∧ ¬ (m.lowered row).LiesIn area := by
  simpa [paint, Option.filter_eq_some_iff] using h

/-- A filled area decides on the cursor blocks that it covers by its colour. -/
theorem paint_fill_cursor (s : RowScreen c) (color : Color) (area : Rect) (row : Nat) :
    (s.paint (.fill color area)).cursor row =
      if c.CoversCursor area row then decide (color = .cursor) else s.cursor row := rfl

end Fill

/-- Filling a row from its labels on changes nothing if all that the row shows begins left of
them. -/
theorem paint_fill_labels {s : RowScreen c} {row : Nat}
    (hleft : (s.row row).All Call.LeftOfLabels) :
    s.paint (.fill .black ⟨labelLeft, baseline row - 5, c.width, baseline (row + 1) - 22⟩) = s := by
  ext row' : 2
  · ext place : 1
    refine paint_fill_of_out fun m hm => ?_
    obtain ⟨x, y, hcorner, -, -, hy0, hy1⟩ := m.exists_corner
    rw [RowMark.lowered_liesIn hcorner]
    rintro ⟨hx, -, hylow, hyhigh⟩
    dsimp only at hx hylow hyhigh
    have hrow : row' = row := by
      simp only [baseline, titleHeight, rowHeight] at *
      omega
    subst hrow
    obtain ⟨x', y', hcorner', hx'⟩ := hleft place m hm
    rw [hcorner] at hcorner'
    cases hcorner'
    omega
  · refine (paint_fill_cursor ..).trans (if_neg ?_)
    rintro ⟨hx, -⟩
    simp [labelLeft] at hx

end RowScreen

/-! ### The rows of a list -/

/-- A mark of the top row begins right of the column of the cursor, and further below the upper end
of the row than the moved part of the panel reaches into the row after the last one. -/
def Call.StandsFree (m : Call) : Prop :=
  ∃ x y, m.corner = some (x, y) ∧ 15 ≤ x ∧ 27 ≤ y ∧ y < titleHeight + rowHeight

/-- A mark that stands free begins within the top row. -/
theorem Call.StandsFree.onTop {m : Call} (h : m.StandsFree) : m.OnTop := by
  obtain ⟨x, y, hcorner, -, hlow, hhigh⟩ := h
  exact ⟨x, y, hcorner, Int.le_trans (by decide) hlow, hhigh⟩

/-- The part of the panel in which the rows of a list are moved. -/
def Canvas.listArea (c : Canvas) : Rect := ⟨12, titleHeight, c.width - 1, statusTop⟩

section List

variable {m : RowMark c} {row : Nat}

/-- A mark of a row of the list can be moved. -/
theorem RowMark.liesIn_listArea (h : m.call.StandsFree) (hrow : row ≤ bottomRow) :
    (m.lowered row).LiesIn c.listArea := by
  obtain ⟨x, y, hcorner, -, hx1, -, hy1⟩ := m.exists_corner
  obtain ⟨x', y', hcorner', hx, hy, -⟩ := h
  rw [hcorner] at hcorner'
  cases hcorner'
  rw [RowMark.lowered_liesIn hcorner]
  simp only [Rect.Contains, Canvas.listArea, titleHeight, rowHeight, statusTop, bottomRow] at *
  omega

/-- A mark of the bottom row is lost if it is moved down. -/
theorem RowMark.not_liesIn_below (h : m.call.StandsFree) :
    ¬ (m.lowered (bottomRow + 1)).LiesIn c.listArea := by
  obtain ⟨x, y, hcorner, -, hy, -⟩ := h
  rw [RowMark.lowered_liesIn hcorner]
  simp only [Rect.Contains, Canvas.listArea, titleHeight, rowHeight, statusTop, bottomRow]
  omega

/-- Nothing that stands further below can be moved into the list. -/
theorem RowMark.not_liesIn_outside (m : RowMark c) (hrow : bottomRow + 2 ≤ row) :
    ¬ (m.lowered row).LiesIn c.listArea := by
  obtain ⟨x, y, hcorner, -, -, hy, -⟩ := m.exists_corner
  rw [RowMark.lowered_liesIn hcorner]
  simp only [Rect.Contains, Canvas.listArea, titleHeight, rowHeight, statusTop, bottomRow] at *
  omega

end List

/-- The rows of the list show a content each, with or without a cursor block. Nothing that stands
below them can be moved into them. -/
structure RowScreen.Shows (s : RowScreen c) (content : Nat → RowContent c)
    (marked : Nat → Bool) : Prop where
  row : ∀ row ≤ bottomRow, s.row row = content row
  cursor : ∀ row ≤ bottomRow, s.cursor row = marked row
  settled : ∀ row ≤ bottomRow, (content row).All Call.StandsFree
  below : ∀ place m, s.row (bottomRow + 1) place = some m →
    ¬ (m.lowered (bottomRow + 1)).LiesIn c.listArea

namespace RowScreen

variable {s : RowScreen c} {content : Nat → RowContent c} {marked : Nat → Bool}

/-- Clearing the rows leaves them blank and without a cursor block. -/
theorem shows_clearRows (s : RowScreen c) :
    (s.replay c.clearRows).Shows (fun _ => .blank) fun _ => false := by
  rw [Canvas.clearRows, Canvas.band, replay_cons, replay_nil]
  refine ⟨fun row hrow => ?_, fun row hrow => ?_, fun _ _ => RowContent.all_blank, ?_⟩
  · ext place : 1
    refine paint_fill_of_in fun m _ => ?_
    obtain ⟨x, y, hcorner, hx0, hx1, hy0, hy1⟩ := m.exists_corner
    rw [RowMark.lowered_liesIn hcorner]
    simp only [Rect.Contains, titleHeight, rowHeight, statusTop, bottomRow] at *
    omega
  · refine (paint_fill_cursor ..).trans ((if_pos ?_).trans (by decide))
    simp only [Canvas.CoversCursor, baseline, titleHeight, rowHeight, statusTop, bottomRow] at *
    omega
  · intro place m hm
    obtain ⟨-, hout⟩ := of_paint_fill hm
    rintro ⟨x, y, hcorner, hx0, hx1, hy⟩
    simp only [Canvas.listArea] at hx0 hx1 hy
    exact hout ⟨x, y, hcorner, by dsimp only; omega, by dsimp only; omega, hy⟩

/-- Filling the place of a cursor block changes nothing else in the list. -/
theorem Shows.paint_cursor (h : s.Shows content marked) (color : Color) (row : Nat) {right : Int}
    (hright : 10 ≤ right ∧ right < 15) :
    (s.paint (.fill color ⟨0, baseline row - 18, right, baseline (row + 1) - 20⟩)).Shows content
      (Function.update marked row (color = .cursor)) := by
  refine ⟨fun row' hrow => ?_, fun row' hrow => ?_, h.settled, ?_⟩
  · rw [← h.row row' hrow]
    ext place : 1
    refine paint_fill_of_out fun m hm => ?_
    obtain ⟨x, y, hcorner, hx, -⟩ := h.settled row' hrow place m (h.row row' hrow ▸ hm)
    rw [RowMark.lowered_liesIn hcorner]
    rintro ⟨-, hx1, -⟩
    dsimp only at hx1
    omega
  · have hcovers : c.CoversCursor ⟨0, baseline row - 18, right, baseline (row + 1) - 20⟩ row' ↔
        row' = row := by
      simp only [Canvas.CoversCursor, baseline, rowHeight]
      omega
    simp only [paint_fill_cursor, hcovers, Function.update_apply, h.cursor row' hrow]
  · intro place m hm
    exact h.below place m (of_paint_fill hm).1

section Move

variable {direction : Direction} {source row : Nat} {place : Place}

/-- A move of the list by one row. -/
def listMove (c : Canvas) (direction : Direction) : Call :=
  .move direction rowHeight .grey c.listArea

/-- A move of the list takes along the marks that stay in its area, and leaves those outside of
it. -/
theorem paint_listMove_row (s : RowScreen c) (direction : Direction) (row : Nat) (place : Place) :
    (s.paint (listMove c direction)).row row place =
      ((sourceRow direction 1 row).bind fun source => (s.row source place).filter fun m =>
          (m.lowered source).LiesIn c.listArea ∧ (m.lowered row).LiesIn c.listArea).or
        ((s.row row place).filter fun m => ¬ (m.lowered row).LiesIn c.listArea) := rfl

/-- The content of a row comes from one next to it. -/
theorem sourceRow_one (h : sourceRow direction 1 row = some source) :
    source = row + 1 ∨ source + 1 = row := by
  unfold sourceRow at h
  split at h
  · exact .inl (Option.some.inj h).symm
  · split at h
    · have := Option.some.inj h
      omega
    · contradiction

/-- A move brings a row the content of its source, and nothing from outside of the list. -/
theorem Shows.listMove_row (h : s.Shows content marked) (hrow : row ≤ bottomRow)
    (place : Place) :
    (s.paint (listMove c direction)).row row place =
      (sourceRow direction 1 row).bind fun source =>
        if source ≤ bottomRow then content source place else none := by
  have hstays : ((s.row row place).filter fun m => ¬ (m.lowered row).LiesIn c.listArea) = none := by
    refine Option.filter_eq_none_iff.mpr fun m hm => ?_
    have := m.liesIn_listArea (h.settled row hrow place m (h.row row hrow ▸ hm)) hrow
    simpa using this
  rw [paint_listMove_row, hstays, Option.or_none]
  cases hsource : sourceRow direction 1 row with
  | none => rfl
  | some source =>
    rw [Option.bind_some, Option.bind_some]
    split
    · next hlist =>
      rw [← h.row source hlist]
      cases hm : s.row source place with
      | none => rfl
      | some m =>
        rw [h.row source hlist] at hm
        have hfree := h.settled source hlist place m hm
        have hfrom := m.liesIn_listArea hfree hlist
        have hto := m.liesIn_listArea hfree hrow
        simp [hfrom, hto]
    · next hbelow =>
      have hsix : source = bottomRow + 1 := by
        have := sourceRow_one hsource
        omega
      subst hsix
      exact Option.filter_eq_none_iff.mpr fun m hm => by simp [h.below place m hm]

/-- What stands below the list after a move still cannot be moved into it. -/
theorem Shows.listMove_below (h : s.Shows content marked) (place : Place) (m : RowMark c)
    (hm : (s.paint (listMove c direction)).row (bottomRow + 1) place = some m) :
    ¬ (m.lowered (bottomRow + 1)).LiesIn c.listArea := by
  rw [paint_listMove_row] at hm
  obtain harrives | ⟨-, hstays⟩ := Option.or_eq_some_iff.mp hm
  · obtain ⟨source, hsource, hfilter⟩ := Option.bind_eq_some_iff.mp harrives
    obtain ⟨hfrom, hinside⟩ := Option.filter_eq_some_iff.mp hfilter
    have hinside : (m.lowered source).LiesIn c.listArea ∧
      (m.lowered (bottomRow + 1)).LiesIn c.listArea := by simpa using hinside
    obtain rfl | hbottom := sourceRow_one hsource
    · exact absurd hinside.1 (m.not_liesIn_outside (Nat.le_refl _))
    · obtain rfl : source = bottomRow := by omega
      have hcontent := h.row bottomRow (Nat.le_refl _) ▸ hfrom
      exact m.not_liesIn_below (h.settled bottomRow (Nat.le_refl _) place m hcontent)
  · simpa using (Option.filter_eq_some_iff.mp hstays).2

/-- Moving the rows up brings each row to the one above it and leaves the bottom row blank. -/
theorem Shows.paint_up (h : s.Shows content marked) :
    (s.paint (listMove c .up)).Shows
      (fun row => if row < bottomRow then content (row + 1) else .blank) marked := by
  refine ⟨fun row hrow => ?_, h.cursor, fun row hrow => ?_, h.listMove_below⟩
  · ext place : 1
    rw [h.listMove_row hrow]
    split
    · next hlt => exact if_pos hlt
    · next hle => exact if_neg hle
  · split
    · next hlt => exact h.settled (row + 1) hlt
    · exact RowContent.all_blank

/-- Moving the rows down brings each row to the one below it and leaves the top row blank. -/
theorem Shows.paint_down (h : s.Shows content marked) :
    (s.paint (listMove c .down)).Shows
      (fun row => if row = 0 then .blank else content (row - 1)) marked := by
  refine ⟨fun row hrow => ?_, h.cursor, fun row hrow => ?_, h.listMove_below⟩
  · ext place : 1
    rw [h.listMove_row hrow]
    split
    · next htop => rw [htop]; rfl
    · next hrest =>
      have hsource : sourceRow .down 1 row = some (row - 1) := if_pos (by omega)
      rw [hsource, Option.bind_some, if_pos (by omega)]
  · split
    · exact RowContent.all_blank
    · exact h.settled (row - 1) (by omega)

end Move

/-- Drawing marks into a row of the list. -/
theorem Shows.replay_lowered (h : s.Shows content marked) {marks : Drawing}
    (hmarks : ∀ m ∈ marks, m.StandsFree) {row : Nat} (hrow : row ≤ bottomRow) :
    (s.replay (marks.map (Call.lowered (rowHeight * row)))).Shows
      (Function.update content row (marks.foldl RowContent.put (content row))) marked := by
  rw [RowScreen.replay_lowered (fun m hm => (hmarks m hm).onTop), h.row row hrow]
  refine ⟨fun row' hrow' => ?_, h.cursor, fun row' hrow' => ?_, fun place m hm => ?_⟩
  · obtain rfl | hne := eq_or_ne row' row
    · rw [setRow_row, Function.update_self]
    · rw [setRow_row_of_ne hne, Function.update_of_ne hne, h.row row' hrow']
  · obtain rfl | hne := eq_or_ne row' row
    · rw [Function.update_self]
      exact (h.settled row' hrow').foldl_put hmarks
    · rw [Function.update_of_ne hne]
      exact h.settled row' hrow'
  · rw [setRow_row_of_ne (by omega)] at hm
    exact h.below place m hm

/-- What the list shows matters in its six rows only. -/
theorem Shows.congr (h : s.Shows content marked) {content' : Nat → RowContent c}
    {marked' : Nat → Bool} (hcontent : ∀ row ≤ bottomRow, content row = content' row)
    (hmarked : ∀ row ≤ bottomRow, marked row = marked' row) : s.Shows content' marked' where
  row row hrow := (h.row row hrow).trans (hcontent row hrow)
  cursor row hrow := (h.cursor row hrow).trans (hmarked row hrow)
  settled row hrow := hcontent row hrow ▸ h.settled row hrow
  below := h.below

end RowScreen

end PrinterPanel.Display
