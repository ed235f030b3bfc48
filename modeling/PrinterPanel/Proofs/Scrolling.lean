import PrinterPanel.Proofs.Positions
import PrinterPanel.Proofs.RowScreen

/-!
# Scrolling against drawing anew

After a step of its cursor a list is not drawn anew: its rows are moved by one and one row is drawn,
or only the cursor block moves. Whatever the steps, the rows and the cursor blocks are those of the
list drawn anew.
-/

namespace PrinterPanel

open Menu

namespace Menu.ListView

variable {l : ListView} {count : Nat}

/-- The list after some steps of its cursor. -/
def afterSteps (l : ListView) (count : Nat) (steps : List Bool) : ListView :=
  steps.foldl (fun l forwards => (l.step forwards count).2) l

/-- A list that fits still does after some steps. -/
theorem Fits.afterSteps (h : l.Fits count) (steps : List Bool) :
    (l.afterSteps count steps).Fits count := by
  induction steps generalizing l with
  | nil => exact h
  | cons forwards rest ih => exact ih (h.step forwards)

/-- What a step of the cursor does: nothing, or the cursor moves within the window, or the window
follows it by one entry. -/
theorem Fits.step_shape (h : l.Fits count) (forwards : Bool) :
    l.step forwards count = (none, l) ∨
    (∃ item, item < count ∧ l.window.top ≤ item ∧ item ≤ l.window.bottom ∧ item ≠ l.position ∧
      l.step forwards count =
        (some (.highlight l.row (l.window.rowOf item)), ⟨⟨item⟩, l.window⟩)) ∨
    (l.position = l.window.bottom ∧ l.window.bottom + 1 < count ∧
      l.step forwards count = (some (.down (l.window.bottom + 1)),
        ⟨⟨l.window.bottom + 1⟩, ⟨l.window.bottom + 1⟩⟩)) ∨
    (bottomRow < l.window.bottom ∧ l.position = l.window.top ∧
      l.step forwards count = (some (.up (l.window.top - 1)),
        ⟨⟨l.window.top - 1⟩, ⟨l.window.bottom - 1⟩⟩)) := by
  obtain hsame | ⟨hitem, hmoves⟩ := h.step_cases forwards
  · exact .inl (if_pos hsame)
  · obtain ⟨-, hlow, hhigh, habove, hbelow⟩ := h
    have hmoved : l.cursor.step forwards count ≠ l.cursor := by
      intro hsame
      rw [hsame] at hmoves
      simp only [position] at hmoves
      omega
    have hstep : l.step forwards count =
        (some (l.window.follow l.position (l.cursor.step forwards count).position).1,
          ⟨l.cursor.step forwards count,
            (l.window.follow l.position (l.cursor.step forwards count).position).2⟩) :=
      if_neg hmoved
    rw [hstep]
    generalize l.cursor.step forwards count = cursor at hitem hmoves
    obtain ⟨item⟩ := cursor
    dsimp only at hitem hmoves ⊢
    unfold Window.follow
    split
    · next hdown =>
      obtain rfl : item = l.window.bottom + 1 := by omega
      exact .inr (.inr (.inl ⟨by omega, hitem, rfl⟩))
    · split
      · next hup =>
        obtain rfl : item = l.window.top - 1 := by
          unfold Window.top
          omega
        have htop : l.window.bottom - 1 - bottomRow = l.window.top - 1 := by
          unfold Window.top
          omega
        rw [htop]
        refine .inr (.inr (.inr ⟨by omega, ?_, rfl⟩))
        unfold Window.top at hmoves ⊢
        omega
      · refine .inr (.inl ⟨item, hitem, ?_, by omega, by omega, rfl⟩)
        unfold Window.top
        omega

end Menu.ListView

namespace Display

/-- What a row of a list shows of its entry. -/
structure MenuLine where
  icon : Nat
  label : String
  figure? : Option Figure
  deriving DecidableEq, Repr

namespace Canvas

/-- A row of a list with the number beside it. -/
def menuLine (c : Canvas) (row : Nat) (line : MenuLine) : Drawing :=
  c.row row line.icon line.label ++
    match line.figure? with
    | some f => c.figure row f false
    | none => []

/-- The drawings of all steps of the cursor of a list, one after the other. -/
def scrolls (c : Canvas) (count : Nat) (entry : Nat → Nat → Drawing) :
    ListView → List Bool → Drawing
  | _, [] => []
  | l, forwards :: rest =>
    let stepped := l.step forwards count
    (match stepped.1 with
      | some scroll => c.scrollWith scroll entry
      | none => []) ++ c.scrolls count entry stepped.2 rest

end Canvas

variable {c : Canvas}

/-- The marks of a line in the top row. -/
def MenuLine.marks (c : Canvas) (line : MenuLine) : Drawing :=
  [.text menuText labelLeft (baseline 0 - 5) line.label,
    pictogram line.icon 20 (baseline 0 - 14),
    .line .line 15 (baseline 1 - 22) 235 (baseline 1 - 22)] ++
  match line.figure? with
  | some f => c.figure 0 f false
  | none => []

/-- The marks of the way back. -/
def backMarks (c : Canvas) : Drawing :=
  [pictogram Icon.back 20 (baseline 0 - 14), c.caption Caption.back labelLeft (baseline 0 - 16),
    .line .line 15 (baseline 1 - 22) 235 (baseline 1 - 22)]

/-- What a row shows of a line. -/
def MenuLine.content (c : Canvas) (line : MenuLine) : RowContent c :=
  (line.marks c).foldl .put .blank

/-- What the top row shows of the way back. -/
def backContent (c : Canvas) : RowContent c := (backMarks c).foldl .put .blank

/-- What a row shows of an entry of a list; nothing if there is no such entry. -/
def entryContent (c : Canvas) (count : Nat) (lines : Nat → MenuLine) (item : Nat) : RowContent c :=
  if count ≤ item then .blank else if item = 0 then backContent c else (lines item).content c

/-- The rows of a list that are on the panel have their own numbers. -/
theorem rowNumber_of_le {row : Nat} (h : row ≤ bottomRow) : rowNumber row = row := by
  simp only [rowNumber, bottomRow] at *
  omega

/-- The number beside a row is that of the top row, moved down. -/
theorem figure_eq (c : Canvas) {row : Nat} (h : row ≤ bottomRow) (f : Figure) :
    c.figure row f false = (c.figure 0 f false).map (Call.lowered (rowHeight * row)) := by
  simp only [Canvas.figure, rowNumber_of_le h, rowNumber_of_le (Nat.zero_le _)]
  split
  · simp [Call.lowered, baseline]
    omega
  · simp [Call.lowered, baseline]
    omega

/-- A line is drawn by its marks, after its row is filled from the labels on. -/
theorem menuLine_eq (c : Canvas) {row : Nat} (h : row ≤ bottomRow) (line : MenuLine) :
    c.menuLine row line =
      .fill .black ⟨labelLeft, baseline row - 5, c.width, baseline (row + 1) - 22⟩ ::
        (line.marks c).map (Call.lowered (rowHeight * row)) := by
  have hfigure : (match line.figure? with
      | some f => c.figure row f false
      | none => []) =
      (match line.figure? with
      | some f => c.figure 0 f false
      | none => []).map (Call.lowered (rowHeight * row)) := by
    cases line.figure? with
    | none => rfl
    | some f => exact figure_eq c h f
  rw [Canvas.menuLine, MenuLine.marks, hfigure, List.map_append]
  simp [Canvas.row, rowNumber_of_le h, Call.lowered, pictogram, baseline, rowHeight]
  omega

/-- The marks of a line stand free. -/
theorem standsFree_marks (line : MenuLine) : ∀ m ∈ line.marks c, m.StandsFree := by
  intro m hm
  obtain hm | hm := List.mem_append.mp hm
  · simp only [List.mem_cons, List.not_mem_nil, or_false] at hm
    obtain rfl | rfl | rfl := hm
    · exact ⟨_, _, rfl, by decide, by decide, by decide⟩
    · exact ⟨_, _, rfl, by decide, by decide, by decide⟩
    · exact ⟨_, _, rfl, by decide, by decide, by decide⟩
  · split at hm
    · next f _ =>
      unfold Canvas.figure at hm
      dsimp only at hm
      split at hm
      · obtain rfl := List.mem_singleton.mp hm
        exact ⟨_, _, rfl, by decide, by decide, by decide⟩
      · obtain rfl := List.mem_singleton.mp hm
        exact ⟨_, _, rfl, by decide, by decide, by decide⟩
    · contradiction

/-- The marks of the way back stand free. -/
theorem standsFree_backMarks : ∀ m ∈ backMarks c, m.StandsFree := by
  intro m hm
  simp only [backMarks, List.mem_cons, List.not_mem_nil, or_false] at hm
  obtain rfl | rfl | rfl := hm
  · exact ⟨_, _, rfl, by decide, by decide, by decide⟩
  · exact ⟨_, _, rfl, by decide, by decide, by decide⟩
  · exact ⟨_, _, rfl, by decide, by decide, by decide⟩

/-- The line that is drawn at the end of the bottom row after the rows have moved up. -/
def scrollRule : Call := .line .line 18 (baseline 1 - 22) 238 (baseline 1 - 22)

/-- The line under the bottom row stands free. -/
theorem standsFree_scrollRule : scrollRule.StandsFree :=
  ⟨_, _, rfl, by decide, by decide, by decide⟩

namespace RowContent

/-- Marks that are drawn into two rows leave a place alike that is alike in both. -/
theorem foldl_put_apply {k k' : RowContent c} {place : Place} (h : k place = k' place)
    (marks : Drawing) : marks.foldl put k place = marks.foldl put k' place := by
  induction marks generalizing k k' with
  | nil => exact h
  | cons m rest ih =>
    refine ih ?_
    simp only [put, h]

/-- The line under a row is seen if it begins on the panel. -/
theorem liesIn_rule {x0 x1 : Int} (hx : 0 ≤ x0) :
    (Call.line .line x0 (baseline 1 - 22) x1 (baseline 1 - 22)).LiesIn c.topRow ↔
      x0 < c.width := by
  rw [Call.liesIn_iff rfl]
  simp only [Rect.Contains, Canvas.topRow, baseline, titleHeight, rowHeight]
  omega

/-- The line below a row replaces the one that was drawn when the row became free. -/
theorem foldl_put_scrollRule (line : MenuLine) :
    (line.marks c).foldl put ((blank : RowContent c).put scrollRule) = line.content c := by
  ext place : 1
  cases place with
  | picture | label | number =>
    exact foldl_put_apply (dif_neg (by simp [scrollRule, Call.place])) _
  | rule =>
    rw [MenuLine.content, MenuLine.marks, List.foldl_append, List.foldl_append]
    refine foldl_put_apply ?_ _
    -- The line of the row begins further left: it is seen wherever the other one is.
    by_cases hwidth : (15 : Int) < c.width
    · simp [put, Call.place, liesIn_rule, hwidth]
    · have hunseen : ¬ (18 : Int) < c.width := by omega
      simp [put, Call.place, pictogram, labelLeft, scrollRule, liesIn_rule, hwidth, hunseen]

end RowContent

namespace RowScreen

variable {s : RowScreen c} {content : Nat → RowContent c} {marked : Nat → Bool} {row : Nat}

/-- A cursor block that is drawn is seen, and nothing else changes. -/
theorem Shows.replay_cursorBlock (h : s.Shows content marked) (hrow : row ≤ bottomRow) :
    (s.replay (c.cursorBlock row)).Shows content (Function.update marked row true) := by
  have hpaint := h.paint_cursor .cursor row (show 10 ≤ (10 : Int) ∧ 10 < 15 by decide)
  simpa [Canvas.cursorBlock, rowNumber_of_le hrow] using hpaint

/-- Moving the cursor block leaves one, if no other row than the two had one. -/
theorem Shows.replay_moveCursor (h : s.Shows content marked) {fromRow toRow : Nat}
    (hfrom : fromRow ≤ bottomRow) (hto : toRow ≤ bottomRow)
    (hmarked : ∀ row, row ≠ fromRow → row ≠ toRow → marked row = false) :
    (s.replay (c.moveCursor fromRow toRow)).Shows content fun row => row = toRow := by
  have hpaint := h.paint_cursor .black fromRow (show 10 ≤ (14 : Int) ∧ 14 < 15 by decide)
  have herased : (s.replay (c.eraseCursor fromRow)).Shows content
      (Function.update marked fromRow false) := by
    simpa [Canvas.eraseCursor, rowNumber_of_le hfrom, show Color.black ≠ Color.cursor by decide]
      using hpaint
  rw [Canvas.moveCursor, replay_append]
  refine (herased.replay_cursorBlock hto).congr (fun _ _ => rfl) fun row _ => ?_
  obtain rfl | hne := eq_or_ne row toRow
  · simp
  · obtain rfl | hne' := eq_or_ne row fromRow
    · simp [hne]
    · simp [hne, hne', hmarked row hne' hne]

/-- Moving up brings each row to the one above it. The bottom row becomes free but for a line, and
the cursor block stays beside it. -/
theorem Shows.replay_shiftUp (h : s.Shows content marked)
    (hmarked : ∀ row, row ≠ bottomRow → marked row = false) :
    (s.replay (c.shiftRows .up)).Shows
      (fun row => if row < bottomRow then content (row + 1) else RowContent.blank.put scrollRule)
      fun row => row = bottomRow := by
  have hcursor := h.paint_up.replay_moveCursor (show bottomRow - 1 ≤ bottomRow by decide)
    (Nat.le_refl bottomRow) fun row _ hne => hmarked row hne
  have hrule := hcursor.replay_lowered (List.forall_mem_singleton.mpr standsFree_scrollRule)
    (Nat.le_refl bottomRow)
  rw [Canvas.shiftRows, replay_cons, replay_append]
  refine hrule.congr (fun row hrow => ?_) fun _ _ => rfl
  obtain rfl | hne := eq_or_ne row bottomRow
  · simp
  · have hlt : row < bottomRow := by omega
    simp [hne, hlt]

/-- Moving down brings each row to the one below it. The top row becomes free, and the cursor block
stays beside it. -/
theorem Shows.replay_shiftDown (h : s.Shows content marked)
    (hmarked : ∀ row, row ≠ 0 → marked row = false) :
    (s.replay (c.shiftRows .down)).Shows
      (fun row => if row = 0 then .blank else content (row - 1)) fun row => row = 0 :=
  h.paint_down.replay_moveCursor (show 1 ≤ bottomRow by decide) (Nat.zero_le _)
    fun row _ hne => hmarked row hne

/-- Drawing a line into a row whose marks begin left of the labels. -/
theorem Shows.replay_menuLine (h : s.Shows content marked) (hrow : row ≤ bottomRow)
    (hleft : (content row).All Call.LeftOfLabels) (line : MenuLine) :
    (s.replay (c.menuLine row line)).Shows
      (Function.update content row ((line.marks c).foldl .put (content row))) marked := by
  rw [menuLine_eq c hrow, replay_cons, paint_fill_labels (h.row row hrow ▸ hleft)]
  exact h.replay_lowered (standsFree_marks line) hrow

/-- Drawing the way back into the blank top row. -/
theorem Shows.replay_backRow (h : s.Shows content marked) (hblank : content 0 = .blank) :
    (s.replay (c.backRow false)).Shows (Function.update content 0 (backContent c)) marked := by
  obtain ⟨hpicture, hrest⟩ := List.forall_mem_cons.mp (standsFree_backMarks (c := c))
  have hdrawn := h.replay_lowered (List.forall_mem_singleton.mpr hpicture) (Nat.zero_le bottomRow)
  have hleft : (RowContent.blank.put (pictogram Icon.back 20 (baseline 0 - 14)) :
      RowContent c).All Call.LeftOfLabels :=
    RowContent.all_blank.put ⟨_, _, rfl, by decide⟩
  have hrow := hdrawn.row 0 (Nat.zero_le _)
  rw [Function.update_self, hblank, List.foldl_cons, List.foldl_nil] at hrow
  have hfilled := paint_fill_labels (hrow ▸ hleft)
  have hmore := hdrawn.replay_lowered hrest (Nat.zero_le bottomRow)
  rw [← hfilled, Function.update_idem, Function.update_self, hblank] at hmore
  simpa [Canvas.backRow, backContent, backMarks] using hmore

end RowScreen

/-! ### Drawing a list -/

/-- The entries of a list are drawn as lines. -/
def Canvas.DrawsLines (c : Canvas) (count : Nat) (entry : Nat → Nat → Drawing)
    (lines : Nat → MenuLine) : Prop :=
  ∀ item row, 0 < item → item < count → entry item row = c.menuLine row (lines item)

/-- The screen shows a list: its entries from the top of the window on, and one cursor block. -/
def RowScreen.ShowsList (s : RowScreen c) (count : Nat) (lines : Nat → MenuLine)
    (l : ListView) : Prop :=
  s.Shows (fun row => entryContent c count lines (l.window.top + row)) fun row => row = l.row

namespace RowScreen

variable {s : RowScreen c} {content : Nat → RowContent c} {marked : Nat → Bool}
  {count : Nat} {entry : Nat → Nat → Drawing} {lines : Nat → MenuLine} {l : ListView}

/-- Drawing an entry of a list into a blank row. -/
theorem Shows.replay_entry (h : s.Shows content marked) (hentry : c.DrawsLines count entry lines)
    {item row : Nat} (hitem : item < count) (hrow : row ≤ bottomRow) (htop : item = 0 → row = 0)
    (hblank : content row = .blank) :
    (s.replay (if item = 0 then c.backRow false else entry item row)).Shows
      (Function.update content row (entryContent c count lines item)) marked := by
  rw [entryContent, if_neg (Nat.not_le.mpr hitem)]
  split
  · next hback =>
    obtain rfl := htop hback
    exact h.replay_backRow hblank
  · next hback =>
    rw [hentry item row (Nat.pos_of_ne_zero hback) hitem]
    have hdrawn := h.replay_menuLine hrow (hblank ▸ RowContent.all_blank) (lines item)
    rwa [hblank] at hdrawn

/-- The entries of a window are drawn one after the other, from the top row down. -/
theorem shows_entries (h : l.Fits count) (hentry : c.DrawsLines count entry lines)
    (hs : s.Shows (fun _ => .blank) marked) {shown : Nat} (hshown : shown ≤ bottomRow + 1)
    (hcount : l.window.top + shown ≤ count) :
    (s.replay ((List.range' l.window.top shown).flatMap fun item =>
        if item = 0 then c.backRow false else entry item (l.window.rowOf item))).Shows
      (fun row => if row < shown then entryContent c count lines (l.window.top + row) else .blank)
      marked := by
  induction shown with
  | zero => simpa using hs
  | succ row ih =>
    have hrows := ih (by omega) (by omega)
    have hrow : l.window.rowOf (l.window.top + row) = row := by
      have hlow := h.low
      unfold Window.rowOf Window.top
      omega
    have hitem : l.window.top + row < count := by omega
    have hdrawn := hrows.replay_entry hentry hitem (Nat.le_of_lt_succ hshown) (by omega)
      (if_neg (Nat.lt_irrefl row))
    rw [List.range'_1_concat, List.flatMap_append, replay_append, List.flatMap_singleton, hrow]
    refine hdrawn.congr (fun row' _ => ?_) fun _ _ => rfl
    obtain rfl | hne := eq_or_ne row' row
    · rw [Function.update_self, if_pos (Nat.lt_succ_self row')]
    · have hlt : row' < row + 1 ↔ row' < row := by omega
      simp only [Function.update_of_ne hne, hlt]

/-- A list that is drawn shows its entries and its cursor block, whatever was on the screen. -/
theorem showsList_listWith (h : l.Fits count) (hentry : c.DrawsLines count entry lines)
    (s : RowScreen c) : (s.replay (c.listWith count l entry)).ShowsList count lines l := by
  have hlow := h.low
  have habove := h.above
  have hcursor := h.cursor
  have hvisible : l.window.lastVisible count + 1 - l.window.top ≤ bottomRow + 1 := by
    unfold Window.lastVisible Window.top
    omega
  have hlisted : l.window.top + (l.window.lastVisible count + 1 - l.window.top) ≤ count := by
    unfold Window.lastVisible Window.top
    omega
  have hentries := shows_entries h hentry s.shows_clearRows hvisible hlisted
  rw [Canvas.listWith, replay_append, replay_append]
  refine (hentries.replay_cursorBlock h.row_le).congr (fun row hrow => ?_) fun row _ => ?_
  · split
    · rfl
    · next hout =>
      refine (if_pos ?_).symm
      unfold Window.lastVisible Window.top at *
      omega
  · simp [Function.update_apply]

/-! ### A step of the cursor -/

/-- The cursor moves within the window. -/
theorem ShowsList.highlight (hs : s.ShowsList count lines l) (h : l.Fits count) {item : Nat}
    (hhigh : item ≤ l.window.bottom) :
    (s.replay (c.scrollWith (.highlight l.row (l.window.rowOf item)) entry)).ShowsList count lines
      ⟨⟨item⟩, l.window⟩ := by
  have hto : l.window.rowOf item ≤ bottomRow := by
    unfold Window.rowOf
    omega
  exact hs.replay_moveCursor h.row_le hto fun row hne _ => decide_eq_false hne

/-- The window follows the cursor down the list. -/
theorem ShowsList.down (hs : s.ShowsList count lines l) (h : l.Fits count)
    (hentry : c.DrawsLines count entry lines) (hcursor : l.position = l.window.bottom)
    (hnext : l.window.bottom + 1 < count) :
    (s.replay (c.scrollWith (.down (l.window.bottom + 1)) entry)).ShowsList count lines
      ⟨⟨l.window.bottom + 1⟩, ⟨l.window.bottom + 1⟩⟩ := by
  have hlow := h.low
  have hrow : l.row = bottomRow := by
    unfold ListView.row Window.rowOf
    omega
  have hshifted := hs.replay_shiftUp fun row hne => decide_eq_false (hrow ▸ hne)
  have hleft : ((RowContent.blank : RowContent c).put scrollRule).All Call.LeftOfLabels :=
    RowContent.all_blank.put ⟨_, _, rfl, by decide⟩
  have hdrawn := hshifted.replay_menuLine (Nat.le_refl bottomRow)
    (by rwa [if_neg (Nat.lt_irrefl bottomRow)]) (lines (l.window.bottom + 1))
  rw [if_neg (Nat.lt_irrefl bottomRow), RowContent.foldl_put_scrollRule] at hdrawn
  rw [Canvas.scrollWith, replay_append, hentry _ _ (Nat.succ_pos _) hnext]
  refine hdrawn.congr (fun row hle => ?_) fun row _ => ?_
  · obtain rfl | hne := eq_or_ne row bottomRow
    · have hitem : l.window.bottom + 1 - bottomRow + bottomRow = l.window.bottom + 1 := by omega
      rw [Function.update_self, Window.top, hitem, entryContent, if_neg (by omega),
        if_neg (by omega)]
    · have hitem : l.window.bottom - bottomRow + (row + 1) =
          l.window.bottom + 1 - bottomRow + row := by omega
      rw [Function.update_of_ne hne, if_pos (by omega), Window.top, Window.top, hitem]
  · have hrow' : ListView.row ⟨⟨l.window.bottom + 1⟩, ⟨l.window.bottom + 1⟩⟩ = bottomRow := by
      simp [ListView.row, ListView.position, Window.rowOf]
    rw [hrow']

/-- The window follows the cursor up the list. -/
theorem ShowsList.up (hs : s.ShowsList count lines l) (h : l.Fits count)
    (hentry : c.DrawsLines count entry lines) (hcursor : l.position = l.window.top)
    (hbefore : bottomRow < l.window.bottom) :
    (s.replay (c.scrollWith (.up (l.window.top - 1)) entry)).ShowsList count lines
      ⟨⟨l.window.top - 1⟩, ⟨l.window.bottom - 1⟩⟩ := by
  have hrow : l.row = 0 := by
    unfold ListView.row Window.rowOf
    unfold Window.top at hcursor
    omega
  have hitem : l.window.top - 1 < count := by
    have := h.cursor
    omega
  have hshifted := hs.replay_shiftDown fun row hne => decide_eq_false (hrow ▸ hne)
  have hdrawn := hshifted.replay_entry hentry hitem (Nat.zero_le _) (fun _ => rfl) (if_pos rfl)
  have hentered : (s.replay (c.scrollWith (.up (l.window.top - 1)) entry)).Shows
      (Function.update (fun row => if row = 0 then .blank else
        entryContent c count lines (l.window.top + (row - 1))) 0
        (entryContent c count lines (l.window.top - 1))) fun row => row = 0 := by
    rw [Canvas.scrollWith, replay_append]
    by_cases hback : l.window.top - 1 = 0
    · -- The way back is drawn with a cursor block of its own.
      rw [if_pos hback] at hdrawn ⊢
      have hselected : c.backRow true = c.backRow false ++ c.cursorBlock 0 := by
        simp [Canvas.backRow]
      rw [hselected, replay_append]
      refine (hdrawn.replay_cursorBlock (Nat.zero_le _)).congr (fun _ _ => rfl) fun row _ => ?_
      simp [Function.update_apply]
    · rwa [if_neg hback] at hdrawn ⊢
  have htop : (Window.mk (l.window.bottom - 1)).top = l.window.top - 1 := by
    simp only [Window.top]
    omega
  refine hentered.congr (fun row _ => ?_) fun row _ => ?_
  · rw [htop]
    obtain rfl | hne := eq_or_ne row 0
    · rw [Function.update_self, Nat.add_zero]
    · have hitem : l.window.top + (row - 1) = l.window.top - 1 + row := by
        unfold Window.top
        omega
      rw [Function.update_of_ne hne, if_neg hne, hitem]
  · have hrow' : ListView.row ⟨⟨l.window.top - 1⟩, ⟨l.window.bottom - 1⟩⟩ = 0 := by
      simp only [ListView.row, ListView.position, Window.rowOf, Window.top]
      omega
    rw [hrow']

/-- After a step of the cursor the screen shows the list as it is then. -/
theorem ShowsList.step (hs : s.ShowsList count lines l) (h : l.Fits count)
    (hentry : c.DrawsLines count entry lines) (forwards : Bool) :
    (s.replay (match (l.step forwards count).1 with
      | some scroll => c.scrollWith scroll entry
      | none => [])).ShowsList count lines (l.step forwards count).2 := by
  obtain hstep | ⟨item, -, -, hhigh, -, hstep⟩ | ⟨hcursor, hnext, hstep⟩ |
    ⟨hbefore, hcursor, hstep⟩ := h.step_shape forwards
  · rwa [hstep]
  · rw [hstep]
    exact hs.highlight h hhigh
  · rw [hstep]
    exact hs.down h hentry hcursor hnext
  · rw [hstep]
    exact hs.up h hentry hcursor hbefore

/-- After any steps of the cursor the screen shows the list as it is then. -/
theorem ShowsList.scrolls (hs : s.ShowsList count lines l) (h : l.Fits count)
    (hentry : c.DrawsLines count entry lines) (steps : List Bool) :
    (s.replay (c.scrolls count entry l steps)).ShowsList count lines
      (l.afterSteps count steps) := by
  induction steps generalizing s l with
  | nil => exact hs
  | cons forwards rest ih =>
    rw [Canvas.scrolls, replay_append]
    exact ih (hs.step h hentry forwards) (h.step forwards)

end RowScreen

/-- The drawings of steps do not ask for the row of the first entry. -/
theorem Canvas.scrolls_congr {count : Nat} {l : ListView} {entry entry' : Nat → Nat → Drawing}
    (h : ∀ item row, 0 < item → entry item row = entry' item row) (steps : List Bool) :
    c.scrolls count entry l steps = c.scrolls count entry' l steps := by
  induction steps generalizing l with
  | nil => rfl
  | cons forwards rest ih =>
    simp only [Canvas.scrolls, ih]
    congr 1
    split
    · next scroll hscroll => exact scrollWith_congr h hscroll
    · rfl

/-- Scrolling shows what drawing anew shows. A list is drawn and its cursor takes some steps, each
with its own drawing; on any other screen the list is drawn as it is in the end. Both show the same
in every row of the list, and one cursor block, which is beside the row of the cursor. The drawings
do not ask for the row of the first entry. -/
theorem scrolling_eq_redraw (c : Canvas) {count : Nat} {l : ListView} (h : l.Fits count)
    {entry : Nat → Nat → Drawing} {lines : Nat → MenuLine} (hentry : c.DrawsLines count entry lines)
    (steps : List Bool) (s s' : RowScreen c) :
    let l' := l.afterSteps count steps
    let scrolled := s.replay (c.listWith count l entry ++ c.scrolls count entry l steps)
    let redrawn := s'.replay (c.listWith count l' entry)
    (∀ row ≤ bottomRow, scrolled.row row = redrawn.row row) ∧
    l'.row ≤ bottomRow ∧
    (∀ row ≤ bottomRow, (scrolled.cursor row = true ↔ row = l'.row) ∧
      (redrawn.cursor row = true ↔ row = l'.row)) ∧
    ∀ entry', (∀ item row, 0 < item → entry' item row = entry item row) →
      c.listWith count l entry' = c.listWith count l entry ∧
      c.scrolls count entry' l steps = c.scrolls count entry l steps := by
  intro l' scrolled redrawn
  have hend : l'.Fits count := h.afterSteps steps
  have hscrolled : scrolled.ShowsList count lines l' := by
    have hdrawn := RowScreen.showsList_listWith h hentry s
    simpa [scrolled] using hdrawn.scrolls h hentry steps
  have hredrawn : redrawn.ShowsList count lines l' := RowScreen.showsList_listWith hend hentry s'
  refine ⟨fun row hrow => ?_, hend.row_le, fun row hrow => ⟨?_, ?_⟩, fun entry' hsame => ?_⟩
  · rw [hscrolled.row row hrow, hredrawn.row row hrow]
  · rw [hscrolled.cursor row hrow, decide_eq_true_iff]
  · rw [hredrawn.cursor row hrow, decide_eq_true_iff]
  · exact ⟨Canvas.listWith_congr hsame, Canvas.scrolls_congr hsame steps⟩

/-- The line of an entry of a fixed menu. -/
def itemLine {α : Type} [MenuItem α] (items : List α) (figures : List (Option Figure))
    (item : Nat) : MenuLine :=
  match items[item]? with
  | none => ⟨0, "", none⟩
  | some entry => ⟨MenuItem.icon entry, MenuItem.label entry, figures[item]?.join⟩

/-- The entries of a fixed menu are drawn as lines. -/
theorem drawsLines_itemRow {α : Type} [MenuItem α] (items : List α)
    (figures : List (Option Figure)) :
    c.DrawsLines items.length (c.itemRow items figures) (itemLine items figures) := by
  intro item row _ hitem
  simp only [Canvas.itemRow, itemLine, List.getElem?_eq_getElem hitem, Canvas.menuLine]
  congr 1
  cases figures[item]? with
  | none => rfl
  | some figure? => cases figure? <;> rfl

end Display

namespace Panel

open Display

/-- The line of an entry of the file browser. -/
def fileLine (p : Panel) (item : Nat) : MenuLine :=
  match p.browser.entries[item - 1]? with
  | none => ⟨0, "", none⟩
  | some (.folder name) => ⟨Icon.folder, String.ofList name, none⟩
  | some (.file name) => ⟨Icon.file, String.ofList name, none⟩

/-- The line of a macro. -/
def macroLine (p : Panel) (item : Nat) : MenuLine :=
  match p.settings.macros[item - 1]? with
  | none => ⟨0, "", none⟩
  | some m => ⟨m.icon, m.label, none⟩

/-- Every list of the panel draws its entries as lines. -/
theorem exists_drawsLines (p : Panel) (m : ListMenu) :
    ∃ lines, p.canvas.DrawsLines (p.entryCount m) (p.entryRow m) lines := by
  cases m with
  | files =>
    refine ⟨p.fileLine, fun item row hpos hitem => ?_⟩
    have hindex : item - 1 < p.browser.entries.length := by
      simp only [entryCount] at hitem
      omega
    simp only [entryRow, fileRow, fileLine, List.getElem?_eq_getElem hindex]
    cases p.browser.entries[item - 1] <;> exact (List.append_nil _).symm
  | misc =>
    refine ⟨p.macroLine, fun item row hpos hitem => ?_⟩
    have hindex : item - 1 < p.settings.macros.length := by
      simp only [entryCount] at hitem
      omega
    simp only [entryRow, macroRow, macroLine, List.getElem?_eq_getElem hindex]
    exact (List.append_nil _).symm
  | control => exact ⟨_, drawsLines_itemRow ControlItem.list []⟩
  | motion => exact ⟨_, drawsLines_itemRow (MotionItem.list p.settings.features) []⟩
  | prepare | axes | temperature | tune | preset _ => exact ⟨_, drawsLines_itemRow _ _⟩

/-- Seven steps down the prepare menu bring its last entries on the panel, and seven steps up bring
the way back again. Then the rows are those of the menu as it was drawn first. -/
theorem scrolling_eq_redraw_prepare :
    let p := ofSettings .standard 240 320
    let count := p.entryCount .prepare
    let down := List.replicate 7 true
    let up := List.replicate 7 false
    let dark : RowScreen p.canvas := ⟨fun _ => .blank, fun _ => false⟩
    let drawn := p.canvas.listWith count .start (p.entryRow .prepare)
    ListView.start.Fits count ∧
      (∃ lines, p.canvas.DrawsLines count (p.entryRow .prepare) lines) ∧
      (ListView.start.afterSteps count down).window.bottom = 7 ∧
      ∀ row ≤ bottomRow,
        (dark.replay (drawn ++
          p.canvas.scrolls count (p.entryRow .prepare) .start (down ++ up))).row row =
        (dark.replay drawn).row row := by
  intro p count down up dark drawn
  have hcount : count = 8 := by decide
  have hfits : ListView.start.Fits count := ListView.fits_start (p.entryCount_pos .prepare)
  have hlow : (ListView.start.afterSteps count down).window.bottom = 7 := by
    rw [hcount]
    decide
  have hback : ListView.start.afterSteps count (down ++ up) = .start := by
    rw [hcount]
    decide
  have hlines := p.exists_drawsLines .prepare
  refine ⟨hfits, hlines, hlow, ?_⟩
  obtain ⟨lines, hentry⟩ := hlines
  have hscrolls := scrolling_eq_redraw p.canvas hfits hentry (down ++ up) dark dark
  clear_value p
  rw [hback] at hscrolls
  exact hscrolls.1

end Panel

end PrinterPanel
