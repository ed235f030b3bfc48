import PrinterPanel.Proofs.Invariant

/-!
# Positions in the lists

Every cursor stays on an entry of its list, however many entries that has at the time, and every
window stays over its list and shows the cursor. So the differences of positions that drawing and
handling a list take are never below zero.
-/

namespace PrinterPanel

open Menu
open Display (Drawing)

namespace Menu

/-- An entry of a list without repetitions is at its own position. -/
theorem positionOf_of_getElem? {α : Type} [DecidableEq α] {items : List α}
    (hnodup : items.Nodup) {index : Nat} {item : α} (h : items[index]? = some item) :
    positionOf items item = index := by
  obtain ⟨hindex, rfl⟩ := List.getElem?_eq_some_iff.mp h
  have hfound : items.findIdx? (· == items[index]) = some index := by
    rw [List.findIdx?_eq_some_iff_getElem]
    refine ⟨hindex, beq_self_eq_true _, fun j hj => ?_⟩
    have hother : items[j] ≠ items[index] :=
      List.pairwise_iff_getElem.mp hnodup j index (Nat.lt_trans hj hindex) hindex hj
    simpa using hother
  rw [positionOf, hfound]
  rfl

/-- The prepare menu has no entry twice. -/
theorem PrepareItem.nodup_list (f : Features) : (PrepareItem.list f).Nodup := by
  unfold PrepareItem.list
  split <;> decide

/-- The control menu has no entry twice. -/
theorem ControlItem.nodup_list : ControlItem.list.Nodup := by decide

/-- The temperature menu has no entry twice. -/
theorem TemperatureItem.nodup_list (f : Features) : (TemperatureItem.list f).Nodup := by
  unfold TemperatureItem.list
  split <;> decide

end Menu

namespace Menu.ListView

/-- The cursor is on one of `count` entries and the window shows it, without leaving the list. -/
structure Fits (l : ListView) (count : Nat) : Prop where
  cursor : l.position < count
  low : bottomRow ≤ l.window.bottom
  high : l.window.bottom ≤ max bottomRow (count - 1)
  above : l.window.bottom - bottomRow ≤ l.position
  below : l.position ≤ l.window.bottom

variable {l : ListView} {count : Nat}

/-- A cursor that the window shows is on one of the six rows. -/
theorem Fits.row_le (h : l.Fits count) : l.row ≤ bottomRow := by
  have hbelow := h.below
  unfold row Window.rowOf
  omega

/-- A list that is opened at its start fits if it has an entry. -/
theorem fits_start (h : 0 < count) : ListView.start.Fits count where
  cursor := h
  low := Nat.le_refl _
  high := Nat.le_max_left _ _
  above := Nat.le_of_eq (Nat.sub_self _)
  below := Nat.zero_le _

/-- An entry is selected by moving the window no further than to it. -/
theorem Fits.select (h : l.Fits count) {item : Nat} (hitem : item < count) :
    (l.select item).Fits count := by
  obtain ⟨-, hlow, hhigh, -, -⟩ := h
  unfold ListView.select Window.reveal
  split
  · constructor <;> simp only [position] <;> omega
  · split
    · constructor <;> simp only [position] <;> omega
    · constructor <;> simp only [position] <;> omega

/-- To select the entry that the cursor is on changes nothing. -/
theorem Fits.select_position (h : l.Fits count) : l.select l.position = l := by
  have hwindow : l.window.reveal l.position = l.window := by
    have habove := h.above
    have hbelow := h.below
    unfold Window.reveal
    rw [if_neg (by omega), if_neg (by omega)]
  rw [ListView.select, hwindow]
  rfl

/-- The window follows a cursor that moves by one entry. -/
theorem Fits.follow (h : l.Fits count) {item : Nat} (hitem : item < count)
    (hstep : item = l.position + 1 ∨ item + 1 = l.position) :
    (ListView.mk ⟨item⟩ (l.window.follow l.position item).2).Fits count := by
  obtain ⟨hcursor, hlow, hhigh, habove, hbelow⟩ := h
  unfold Window.follow
  split
  · constructor <;> simp only [position] <;> omega
  · split
    · constructor <;> simp only [position] <;> omega
    · constructor <;> simp only [position] at * <;> omega

/-- A cursor that moves at all moves by one entry. -/
theorem Fits.step_cases (h : l.Fits count) (forwards : Bool) :
    l.cursor.step forwards count = l.cursor ∨
      (l.cursor.step forwards count).position < count ∧
        ((l.cursor.step forwards count).position = l.position + 1 ∨
          (l.cursor.step forwards count).position + 1 = l.position) := by
  have hcursor : l.cursor.position < count := h.cursor
  rcases l with ⟨⟨position⟩, window⟩
  simp only [ListView.position] at hcursor ⊢
  cases forwards with
  | true =>
    simp only [Cursor.step, Cursor.forward, if_true]
    split
    · exact .inr ⟨by simp only; omega, .inl rfl⟩
    · exact .inl (congrArg Cursor.mk (by omega))
  | false =>
    simp only [Cursor.step, Cursor.back, Bool.false_eq_true, if_false, Cursor.mk.injEq]
    omega

/-- A list that fits still does after a step. -/
theorem Fits.step (h : l.Fits count) (forwards : Bool) : (l.step forwards count).2.Fits count := by
  unfold ListView.step
  dsimp only
  split
  · exact h
  · next hmoved =>
    obtain hsame | ⟨hitem, hstep⟩ := h.step_cases forwards
    · contradiction
    · exact h.follow hitem hstep

/-- A window that moves up shows the entry before its first one, and one that moves down never
shows the first entry of the list. -/
theorem scroll_exact {forwards : Bool} {scroll : Scroll}
    (hscroll : (l.step forwards count).1 = some scroll) :
    (∀ item, scroll = .up item → item + bottomRow + 1 = l.window.bottom) ∧
      ∀ item, scroll = .down item → 0 < item := by
  unfold ListView.step at hscroll
  dsimp only at hscroll
  split at hscroll
  · contradiction
  · obtain rfl := Option.some.inj hscroll
    unfold Window.follow
    split
    · next hdown =>
      refine ⟨by simp, ?_⟩
      rintro item ⟨⟩
      exact Nat.lt_of_le_of_lt (Nat.zero_le _) hdown.1
    · split
      · next hup =>
        refine ⟨?_, by simp⟩
        rintro item ⟨⟩
        omega
      · exact ⟨by simp, by simp⟩

end Menu.ListView

namespace Display.Canvas

variable {c : Canvas} {count : Nat} {l : ListView} {entry entry' : Nat → Nat → Drawing}

/-- The first entry of a list is the way back, and its row is not asked for. -/
theorem listWith_congr (h : ∀ item row, 0 < item → entry item row = entry' item row) :
    c.listWith count l entry = c.listWith count l entry' := by
  have hrow (item : Nat) :
      (if item = 0 then c.backRow false else entry item (l.window.rowOf item)) =
        if item = 0 then c.backRow false else entry' item (l.window.rowOf item) := by
    split
    · rfl
    · exact h _ _ (by omega)
  simp only [listWith, hrow]

/-- Scrolling does not ask for the row of the first entry, either. -/
theorem scrollWith_congr (h : ∀ item row, 0 < item → entry item row = entry' item row)
    {forwards : Bool} {scroll : Scroll} (hscroll : (l.step forwards count).1 = some scroll) :
    c.scrollWith scroll entry = c.scrollWith scroll entry' := by
  cases scroll with
  | down item =>
    have hitem : 0 < item := (ListView.scroll_exact hscroll).2 item rfl
    simp only [scrollWith, h _ _ hitem]
  | up item =>
    by_cases hitem : item = 0
    · simp only [scrollWith, hitem, if_true]
    · simp only [scrollWith, hitem, if_false, h _ _ (Nat.pos_of_ne_zero hitem)]
  | highlight => rfl

end Display.Canvas

namespace Panel

/-- Moving in a list does not touch the cursors that belong to no list. -/
theorem set_cursors (places : Places) (m : ListMenu) (l : ListView) :
    (places.set m l).page = places.page ∧ (places.set m l).print = places.print ∧
      (places.set m l).confirm = places.confirm ∧ (places.set m l).icon = places.icon := by
  rcases m with _ | _ | _ | _ | _ | _ | _ | _ | _ | _ <;> exact ⟨rfl, rfl, rfl, rfl⟩

/-- Every list has an entry. -/
theorem entryCount_pos (p : Panel) (m : ListMenu) : 0 < p.entryCount m := by
  cases m <;>
    simp [entryCount, PrepareItem.list, ControlItem.list, AxisItem.list, TemperatureItem.list,
      MotionItem.list, TuneItem.list, PreheatItem.list]

/-- Every cursor is on something, and every window shows the cursor of its list. -/
structure Placed (p : Panel) : Prop where
  lists : ∀ m, (p.places.get m).Fits (p.entryCount m)
  page : p.places.page.position < Act.pageCount
  print : p.places.print.position < Act.printButtonCount
  confirm : p.places.confirm.position < 2
  icon : p.places.icon.position < Act.iconCount
  /-- Homing returns to an entry that there is. -/
  homing : ∀ request, p.homing = some request → request.position < p.entryCount .prepare

/-- The place in one list may change to another that fits. -/
theorem Placed.set {p : Panel} (h : p.Placed) {m : ListMenu} {l : ListView}
    (hl : l.Fits (p.entryCount m)) : ({ p with places := p.places.set m l }).Placed := by
  obtain ⟨hpage, hprint, hconfirm, hicon⟩ := set_cursors p.places m l
  refine ⟨?_, by rw [hpage]; exact h.page, by rw [hprint]; exact h.print,
    by rw [hconfirm]; exact h.confirm, by rw [hicon]; exact h.icon, h.homing⟩
  intro m'
  rw [Places.get_set]
  split
  · next hm => exact hm ▸ hl
  · exact h.lists m'

/-- Every move keeps the cursors on their entries. -/
theorem invariant_placed : Invariant Placed where
  attends _ _ _ _ h _ := ⟨h.lists, h.page, h.print, h.confirm, h.icon, h.homing⟩
  notes _ _ _ h := ⟨h.lists, h.page, h.print, h.confirm, h.icon, h.homing⟩
  tracks _ _ h := ⟨h.lists, h.page, h.print, h.confirm, h.icon, h.homing⟩
  homes {p} h _ := by
    refine ⟨h.lists, h.page, h.print, h.confirm, h.icon, ?_⟩
    rintro _ ⟨⟩
    exact (h.lists .prepare).cursor
  homed h := ⟨h.lists, h.page, h.print, h.confirm, h.icon, by simp⟩
  moves {p places} h hmoves := by
    cases hmoves with
    | turn m forwards => exact h.set ((h.lists m).step forwards)
    | rewind m => exact h.set (ListView.fits_start (p.entryCount_pos m))
    | select m item _ hitem =>
      refine h.set ((h.lists m).select ?_)
      obtain hitem | ⟨rfl, hhoming⟩ := hitem
      · exact hitem
      · exact h.homing _ hhoming
    | page c hc =>
      have hpage : c.position < Act.pageCount := hc.elim id (Nat.lt_of_le_of_lt · h.page)
      exact ⟨h.lists, hpage, h.print, h.confirm, h.icon, h.homing⟩
    | print c hc =>
      have hprint : c.position < Act.printButtonCount := hc.elim id (Nat.lt_of_le_of_lt · h.print)
      exact ⟨h.lists, h.page, hprint, h.confirm, h.icon, h.homing⟩
    | confirm c hc =>
      have hconfirm : c.position < 2 := hc.elim id (Nat.lt_of_le_of_lt · h.confirm)
      exact ⟨h.lists, h.page, h.print, hconfirm, h.icon, h.homing⟩
    | icon c hc =>
      have hicon : c.position < Act.iconCount := hc.elim id (Nat.lt_of_le_of_lt · h.icon)
      exact ⟨h.lists, h.page, h.print, h.confirm, hicon, h.homing⟩
  lists {p} browser h _ _ := by
    refine ⟨?_, h.page, h.print, h.confirm, h.icon, h.homing⟩
    intro m
    -- Only the list of files depends on the browser, and that one starts anew.
    by_cases hm : m = .files
    · subst hm
      exact ListView.fits_start (Nat.succ_pos _)
    · have hget : (p.places.rewind .files).get m = p.places.get m := by
        rw [Places.rewind, Places.get_set, if_neg (Ne.symm hm)]
      have hcount : ({ p with browser := browser }).entryCount m = p.entryCount m := by
        cases m <;> first | rfl | contradiction
      have hfits : ((p.places.rewind .files).get m).Fits
          (({ p with browser := browser }).entryCount m) := by
        rw [hget, hcount]
        exact h.lists m
      exact hfits
  goes _ h _ _ := ⟨h.lists, h.page, h.print, h.confirm, h.icon, h.homing⟩
  covers _ h _ _ := ⟨h.lists, h.page, h.print, h.confirm, h.icon, h.homing⟩
  returns _ h _ _ := ⟨h.lists, h.page, h.print, h.confirm, h.icon, h.homing⟩
  edits _ _ _ h _ _ := ⟨h.lists, h.page, h.print, h.confirm, h.icon, h.homing⟩
  adjusts _ _ h _ := ⟨h.lists, h.page, h.print, h.confirm, h.icon, h.homing⟩
  leaves {p} h := by
    unfold abandonEdit
    split
    · exact h
    · exact ⟨h.lists, h.page, h.print, h.confirm, h.icon, h.homing⟩
  stores _ h := ⟨h.lists, h.page, h.print, h.confirm, h.icon, h.homing⟩

/-- Every list of a panel that is switched on is at its start. -/
theorem placed_ofSettings (s : Settings) (width height : Nat) :
    (Panel.ofSettings s width height).Placed := by
  refine ⟨?_, Nat.succ_pos _, Nat.succ_pos _, Nat.succ_pos _, Nat.succ_pos _, by simp [ofSettings]⟩
  intro m
  have hstart : Places.start.get m = .start := by
    rcases m with _ | _ | _ | _ | _ | _ | _ | _ | _ | _ <;> rfl
  exact hstart ▸ ListView.fits_start (entryCount_pos _ m)

/-- The lists stay in place when another screen comes up. -/
theorem Placed.shows {p : Panel} (h : p.Placed) (screen : Screen) :
    ({ p with screen := screen }).Placed :=
  ⟨h.lists, h.page, h.print, h.confirm, h.icon, h.homing⟩

/-- After every operation, each list has its cursor on an entry and its window over the cursor, so
that the row of the cursor is one of the six, and the other cursors are among their choices. The
differences of positions that are taken are exact: a window has five entries above its bottom, a
window that moves up has an entry above its first one, the row of the first entry is never asked
for, and a position behind the first is the one of a file or macro. -/
theorem run_positions_fit (s : Settings) (width height : Nat)
    (ops : List (Operation × Answers)) :
    let p := ((Panel.ofSettings s width height).run ops).1
    (∀ m, let l := p.places.get m
      l.position < p.entryCount m ∧
      bottomRow ≤ l.window.bottom ∧ l.window.bottom ≤ max bottomRow (p.entryCount m - 1) ∧
      l.window.bottom - bottomRow ≤ l.position ∧ l.position ≤ l.window.bottom ∧
      l.row ≤ bottomRow) ∧
    p.places.page.position < 4 ∧ p.places.print.position < 3 ∧ p.places.confirm.position < 2 ∧
    p.places.icon.position < 255 ∧
    (∀ m forwards scroll, ((p.places.get m).step forwards (p.entryCount m)).1 = some scroll →
      ∀ item, scroll = .up item → item + bottomRow + 1 = (p.places.get m).window.bottom) ∧
    (∀ m entry, (∀ item row, 0 < item → entry item row = p.entryRow m item row) →
      p.canvas.listWith (p.entryCount m) (p.places.get m) entry =
        p.canvas.listWith (p.entryCount m) (p.places.get m) (p.entryRow m) ∧
      ∀ forwards scroll, ((p.places.get m).step forwards (p.entryCount m)).1 = some scroll →
        p.canvas.scrollWith scroll entry = p.scrolled m scroll) ∧
    (∀ index, p.places.files.position = index + 1 → index < p.browser.entries.length) ∧
    ∀ index, p.places.misc.position = index + 1 → index < p.settings.macros.length := by
  intro p
  have h : p.Placed :=
    invariant_placed.run (fun _ _ _ _ hq => hq.shows .mainMenu) (placed_ofSettings s width height)
  refine ⟨?_, h.page, h.print, h.confirm, h.icon, ?_, ?_, ?_, ?_⟩
  · intro m
    have hm := h.lists m
    exact ⟨hm.cursor, hm.low, hm.high, hm.above, hm.below, hm.row_le⟩
  · intro m forwards scroll hscroll
    exact (ListView.scroll_exact hscroll).1
  · intro m entry hentry
    exact ⟨Display.Canvas.listWith_congr hentry, fun _ _ hscroll =>
      Display.Canvas.scrollWith_congr hentry hscroll⟩
  · intro index hindex
    have hcursor : p.places.files.position < p.browser.entries.length + 1 :=
      (h.lists .files).cursor
    omega
  · intro index hindex
    have hcursor : p.places.misc.position < p.settings.macros.length + 1 := (h.lists .misc).cursor
    omega

end Panel

end PrinterPanel
