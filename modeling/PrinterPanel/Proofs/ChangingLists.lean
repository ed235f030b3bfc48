import Mathlib.Data.List.Induction
import PrinterPanel.Menu.ListView

/-!
# Lists that change their length

The length of a list is given anew with each step, so that a list may grow or become shorter under
its cursor. The cursor never runs below the window, and the window never reaches above the list. A
step forward in a list that has become shorter takes the cursor to the last entry in one jump, while
the window moves up by a single row: the cursor leaves the window if the list now ends two or more
entries above it.
-/

namespace PrinterPanel.Menu

/-- What can be done to a list on the panel. -/
inductive ListOperation where
  /-- A step through the list, which has `count` entries now. -/
  | step (forwards : Bool) (count : Nat)
  /-- An entry is highlighted. -/
  | select (item : Nat)
  /-- The list starts again from its first entry. -/
  | reset
  deriving DecidableEq, Repr

namespace ListView

variable {l : ListView} {forwards : Bool} {count : Nat}

/-- The list after one operation. -/
def operate (l : ListView) : ListOperation → ListView
  | .step forwards count => (l.step forwards count).2
  | .select item => l.select item
  | .reset => start

/-- The list after one operation after the other. -/
def operated (l : ListView) (ops : List ListOperation) : ListView := ops.foldl operate l

/-- The last operation is done after all others. -/
theorem operated_concat (l : ListView) (ops : List ListOperation) (op : ListOperation) :
    l.operated (ops ++ [op]) = (l.operated ops).operate op :=
  List.foldl_append

/-! ### What every operation keeps -/

/-- The window does not reach above the list, and the cursor is not below the window. -/
structure Hangs (l : ListView) : Prop where
  low : bottomRow ≤ l.window.bottom
  below : l.position ≤ l.window.bottom

/-- The cursor is on one of the entries that the window shows. -/
structure InView (l : ListView) : Prop extends l.Hangs where
  above : l.window.top ≤ l.position

/-- The selected row is one of the rows on the screen. -/
theorem Hangs.row_le (h : l.Hangs) : l.row ≤ bottomRow := by
  have hbelow := h.below
  unfold row Window.rowOf
  omega

/-- A list hangs together at its start. -/
theorem hangs_start : start.Hangs where
  low := Nat.le_refl _
  below := Nat.zero_le _

/-- The cursor is in view at the start of a list. -/
theorem inView_start : start.InView where
  toHangs := hangs_start
  above := Nat.le_of_eq (Nat.sub_self _)

/-- An entry that is selected is in view, wherever the cursor was before. -/
theorem Hangs.select (h : l.Hangs) (item : Nat) : (l.select item).InView := by
  obtain ⟨hlow, -⟩ := h
  have hwindow : bottomRow ≤ (l.window.reveal item).bottom ∧
      item ≤ (l.window.reveal item).bottom ∧
      (l.window.reveal item).bottom ≤ item + bottomRow := by
    unfold Window.reveal
    split
    · simp only
      omega
    · split
      · simp only
        omega
      · next hup => omega
  obtain ⟨hbottom, hbelow, habove⟩ := hwindow
  exact ⟨⟨hbottom, hbelow⟩, Nat.sub_le_of_le_add habove⟩

/-- A step forward leads to the last entry, however far back that is. -/
theorem position_step_true (c : Cursor) (count : Nat) :
    (c.step true count).position = min (c.position + 1) (count - 1) := by
  simp only [Cursor.step, Cursor.forward, if_true]
  split <;> simp only <;> omega

/-- A step back goes to the entry before, and stays on the first one. -/
theorem position_step_false (c : Cursor) (count : Nat) :
    (c.step false count).position = c.position - 1 := rfl

/-- A step either leaves the list as it is or takes the window along. -/
theorem step_eq (l : ListView) (forwards : Bool) (count : Nat) :
    ((l.cursor.step forwards count).position = l.position ∧ l.step forwards count = (none, l)) ∨
    ((l.cursor.step forwards count).position ≠ l.position ∧
      l.step forwards count =
        (some (l.window.follow l.position (l.cursor.step forwards count).position).1,
          ⟨l.cursor.step forwards count,
            (l.window.follow l.position (l.cursor.step forwards count).position).2⟩)) := by
  by_cases hcursor : l.cursor.step forwards count = l.cursor
  · exact .inl ⟨congrArg Cursor.position hcursor, if_pos hcursor⟩
  · refine .inr ⟨fun hposition => hcursor ?_, if_neg hcursor⟩
    exact congrArg Cursor.mk hposition

/-- A step tells what to redraw exactly when it moves the cursor. -/
theorem isSome_step_iff (l : ListView) (forwards : Bool) (count : Nat) :
    (l.step forwards count).1.isSome ↔ (l.step forwards count).2.position ≠ l.position := by
  obtain ⟨-, hstep⟩ | ⟨hmoved, hstep⟩ := l.step_eq forwards count
  · simp [hstep]
  · simpa [hstep, position] using hmoved

/-! ### Where a step leads -/

/-- A window that follows a cursor still has it above its end, and it stays as it is or moves by one
row unless it moves down to the cursor. -/
theorem Hangs.follow (h : l.Hangs) (item : Nat) :
    (ListView.mk ⟨item⟩ (l.window.follow l.position item).2).Hangs := by
  obtain ⟨hlow, hbelow⟩ := h
  unfold Window.follow
  split
  · next hdown => exact ⟨Nat.le_of_lt hdown.2.1, Nat.le_refl _⟩
  · split
    · next hup =>
      constructor <;> simp only [position] <;> omega
    · next hdown hup =>
      constructor <;> simp only [position] at * <;> omega

/-- A window follows a cursor unless it jumps back to an entry above the row over the window. -/
theorem InView.follow_iff (h : l.InView) (item : Nat) :
    (ListView.mk ⟨item⟩ (l.window.follow l.position item).2).InView ↔
      l.window.top ≤ item + 1 := by
  obtain ⟨hhangs, habove⟩ := h
  have hfollowed := hhangs.follow item
  obtain ⟨hlow, hbelow⟩ := hhangs
  have hview : (ListView.mk ⟨item⟩ (l.window.follow l.position item).2).InView ↔
      (l.window.follow l.position item).2.top ≤ item := ⟨InView.above, .mk hfollowed⟩
  rw [hview]
  unfold Window.follow
  unfold Window.top at *
  split
  · next hdown =>
    simp only
    omega
  · split
    · next hup =>
      simp only
      omega
    · next hdown hup =>
      simp only
      omega

/-- A step takes the cursor out of view: the list has become so short that the jump to its last
entry passes the top of the window by more than one row. -/
def Strands (l : ListView) : ListOperation → Prop
  | .step true count => max 1 count < l.window.top
  | .step false _ | .select _ | .reset => False

instance (l : ListView) : (op : ListOperation) → Decidable (l.Strands op)
  | .step true _ => inferInstanceAs (Decidable (_ < _))
  | .step false _ | .select _ | .reset => inferInstanceAs (Decidable False)

/-- What every operation keeps, however the length of the list changes. -/
theorem Hangs.operate (h : l.Hangs) (op : ListOperation) : (l.operate op).Hangs := by
  cases op with
  | step forwards count =>
    obtain ⟨-, hstep⟩ | ⟨-, hstep⟩ := l.step_eq forwards count
    · rwa [ListView.operate, hstep]
    · rw [ListView.operate, hstep]
      exact h.follow _
  | select item => exact (h.select item).toHangs
  | reset => exact hangs_start

/-- A step loses sight of the cursor exactly if the list has become too short for the window. -/
theorem InView.step_iff (h : l.InView) (forwards : Bool) (count : Nat) :
    (l.step forwards count).2.InView ↔ ¬ l.Strands (.step forwards count) := by
  have habove : l.window.top ≤ l.cursor.position := h.above
  have hstrands : ¬ l.Strands (.step forwards count) ↔
      l.window.top ≤ (l.cursor.step forwards count).position + 1 := by
    cases forwards with
    | true =>
      rw [position_step_true, Strands]
      omega
    | false =>
      refine iff_of_true id ?_
      rw [position_step_false]
      omega
  rw [hstrands]
  obtain ⟨hsame, hstep⟩ | ⟨-, hstep⟩ := l.step_eq forwards count
  · rw [hstep, hsame]
    exact iff_of_true h (Nat.le_succ_of_le habove)
  · rw [hstep]
    exact h.follow_iff _

/-- An operation keeps the cursor in view exactly unless it strands it. -/
theorem InView.operate_iff (h : l.InView) (op : ListOperation) :
    (l.operate op).InView ↔ ¬ l.Strands op := by
  cases op with
  | step forwards count => exact h.step_iff forwards count
  | select item => exact iff_of_true (h.toHangs.select item) id
  | reset => exact iff_of_true inView_start id

/-! ### Runs -/

/-- After any operations the list hangs together. -/
theorem hangs_operated (ops : List ListOperation) : (start.operated ops).Hangs := by
  induction ops using List.reverseRecOn with
  | nil => exact hangs_start
  | append_singleton ops op ih =>
    rw [operated_concat]
    exact ih.operate op

/-- After every operation of a run the window does not reach above the list and the selected row is
on the panel, and each step tells what to redraw exactly when the cursor moved. The cursor is in the
window after all of them exactly if no step strands it. -/
theorem operated_inView_iff (ops : List ListOperation) :
    (∀ past, past <+: ops → bottomRow ≤ (start.operated past).window.bottom ∧
      (start.operated past).position ≤ (start.operated past).window.bottom ∧
      (start.operated past).row ≤ bottomRow) ∧
    (∀ past forwards count, past ++ [.step forwards count] <+: ops →
      (((start.operated past).step forwards count).1.isSome ↔
        (start.operated (past ++ [.step forwards count])).position ≠
          (start.operated past).position)) ∧
    ((∀ past, past <+: ops → (start.operated past).window.top ≤ (start.operated past).position) ↔
      ∀ past op, past ++ [op] <+: ops → ¬ (start.operated past).Strands op) := by
  refine ⟨fun past _ => ?_, fun past forwards count _ => ?_, fun hview past op hop => ?_,
    fun hfree past hpast => ?_⟩
  · have h := hangs_operated past
    exact ⟨h.low, h.below, h.row_le⟩
  · rw [operated_concat]
    exact isSome_step_iff _ forwards count
  · have hpast : (start.operated past).InView :=
      ⟨hangs_operated past, hview past ((List.prefix_append ..).trans hop)⟩
    have hnext : ((start.operated past).operate op).InView := by
      rw [← operated_concat]
      exact ⟨hangs_operated _, hview _ hop⟩
    exact (hpast.operate_iff op).mp hnext
  · -- Up to each point of the run no step strands the cursor, so that it is in view there.
    suffices h : (start.operated past).InView from h.above
    induction past using List.reverseRecOn with
    | nil => exact inView_start
    | append_singleton past op ih =>
      rw [operated_concat]
      have hbefore := ih ((List.prefix_append ..).trans hpast)
      exact (hbefore.operate_iff op).mpr (hfree past op hpast)

/-- A list that is shown down to its eighth entry and then has one entry left: the cursor is on the
first entry, and the window begins with the second one. -/
theorem inView_lost :
    let l := start.operated [.select 7, .step true 1]
    l.position = 0 ∧ l.window.top = 1 ∧ ¬ l.window.top ≤ l.position ∧ l.row = 0 := by
  decide

end ListView

end PrinterPanel.Menu
