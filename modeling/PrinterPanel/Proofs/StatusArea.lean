import PrinterPanel.Proofs.Readings

/-!
# The status area

The status area is drawn with every screen that has one, and by a tick when a value in it has
changed. It is taken away by whatever clears the panel and by message boxes, and these come with
screens that show no status area.
-/

namespace PrinterPanel

open Display (Drawing Call Color Direction Rect)
open Menu

/-! ### Calls that take the status area away -/

namespace Display.Canvas

variable {c : Canvas} {d d' : Drawing} {r : Status}

/-- A call that empties the status area, or that begins a message box. -/
def Wipes (c : Canvas) : Call → Prop
  | .fill color area =>
    .fill color area ∈ c.clearStatus ∨ ∃ text, (c.messageBox text).head? = some (.fill color area)
  | _ => False

/-- A drawing that leaves the status area alone. -/
def Spares (c : Canvas) (d : Drawing) : Prop := ∀ call ∈ d, ¬ c.Wipes call

/-- The status area was last drawn for a report, and has been left alone since. -/
def LastArea (c : Canvas) (r : Status) (calls : Drawing) : Prop :=
  ∃ before later, calls = before ++ (c.statusArea r ++ later) ∧ c.Spares later

/-- An empty drawing leaves the status area alone. -/
@[simp] theorem spares_nil : c.Spares [] := fun _ h => nomatch h

/-- A drawing leaves the status area alone if its first call and the others do. -/
@[simp] theorem spares_cons {call : Call} :
    c.Spares (call :: d) ↔ ¬ c.Wipes call ∧ c.Spares d := List.forall_mem_cons

/-- Two drawings leave the status area alone if both do. -/
@[simp] theorem spares_append : c.Spares (d ++ d') ↔ c.Spares d ∧ c.Spares d' :=
  List.forall_mem_append

/-- A status area that was drawn last stays so while it is left alone. -/
theorem LastArea.append (h : c.LastArea r d) (hd : c.Spares d') : c.LastArea r (d ++ d') := by
  obtain ⟨before, later, rfl, hlater⟩ := h
  exact ⟨before, later ++ d', by simp, spares_append.mpr ⟨hlater, hd⟩⟩

/-- The status area that has just been drawn was drawn last. -/
theorem lastArea_append (d : Drawing) : c.LastArea r (d ++ c.statusArea r) :=
  ⟨d, [], by simp, spares_nil⟩

/-- A message box begins with a filled area, as high as its lines need. -/
theorem head?_messageBox (c : Canvas) (text : String) :
    ∃ lines : Nat, (c.messageBox text).head? = some (.fill .popup
      ⟨padding, c.messageBoxTop lines, c.width - padding,
        c.messageBoxTop lines + messageBoxHeight lines⟩) :=
  ⟨_, rfl⟩

/-! ### Where it was drawn -/

/-- Drawings that take the status area away. -/
inductive TakesAway (c : Canvas) : Drawing → Prop where
  | clear : c.TakesAway c.clear
  | mainMenu (page : Nat) (miscPage : Bool) : c.TakesAway (c.mainMenu page miscPage)
  | messageBox (text : String) : c.TakesAway (c.messageBox text)

end Display.Canvas

/-- A drawing is made among some calls, from a place on. -/
def Display.MadeAt (calls : Drawing) (n : Nat) (d : Drawing) : Prop := d <+: calls.drop n

/-- The calls of a drawing are found at its place. -/
theorem Display.MadeAt.getElem?_eq {calls d : Drawing} {n i : Nat} {call : Call}
    (h : MadeAt calls n d) (hcall : d[i]? = some call) : calls[n + i]? = some call := by
  obtain ⟨rest, hrest⟩ := h
  obtain ⟨hi, -⟩ := List.getElem?_eq_some_iff.mp hcall
  rw [← List.getElem?_drop, ← hrest, List.getElem?_append_left hi, hcall]

namespace Display.Canvas

variable {c : Canvas} {d d' calls : Drawing} {r : Status} {n k i : Nat}

/-- Nothing that takes the status area away comes after calls that leave it alone. -/
theorem le_of_spares (hlater : c.Spares (calls.drop (n + 1))) {call : Call}
    (hmade : MadeAt calls k d) (hcall : d[i]? = some call) (hwipes : c.Wipes call) : k + i ≤ n := by
  refine Nat.le_of_not_lt fun hafter => hlater call ?_ hwipes
  apply List.mem_of_getElem? (i := k + i - (n + 1))
  rw [List.getElem?_drop, Nat.add_sub_cancel' hafter]
  exact hmade.getElem?_eq hcall

/-- The area that a message box begins with takes the status area away. -/
theorem wipes_messageBox {text : String} {color : Color} {area : Rect}
    (h : (c.messageBox text).head? = some (.fill color area)) : c.Wipes (.fill color area) :=
  .inr ⟨text, h⟩

/-- To empty the status area takes it away. -/
theorem wipes_clearStatus : c.Wipes (c.band .black statusTop c.height) :=
  .inl (List.mem_singleton_self _)

/-- A filled area is told from one that takes the status area away by its color and its corner, or
by its height. -/
theorem not_wipes_fill {color : Color} {area : Rect}
    (hblack : color = .black → area.x0 = 0 → area.y0 ≠ statusTop)
    (hpopup : color = .popup → area.x0 = padding → ∀ lines : Nat,
      area.y1 - area.y0 ≠ messageBoxHeight lines) : ¬ c.Wipes (.fill color area) := by
  rintro (hclear | ⟨text, htext⟩)
  · obtain ⟨rfl, rfl⟩ := Call.fill.inj (List.mem_singleton.mp hclear)
    exact hblack rfl rfl rfl
  · obtain ⟨lines, hbox⟩ := c.head?_messageBox text
    rw [hbox] at htext
    obtain ⟨rfl, rfl⟩ := Call.fill.inj (Option.some.inj htext)
    exact hpopup rfl rfl lines (by dsimp only; omega)

/-- A black area that begins elsewhere leaves the status area alone. -/
theorem not_wipes_black {x y x' y' : Int} (h : x = 0 → y ≠ statusTop) :
    ¬ c.Wipes (.fill .black ⟨x, y, x', y'⟩) :=
  not_wipes_fill (fun _ => h) (by simp [Color.black, Color.popup])

/-- An area in another colour leaves the status area alone. -/
theorem not_wipes_other {color : Color} {area : Rect} (hblack : color ≠ .black)
    (hpopup : color ≠ .popup) : ¬ c.Wipes (.fill color area) :=
  not_wipes_fill (absurd · hblack) (absurd · hpopup)

/-- Nothing but a filled area takes the status area away. -/
@[simp] theorem not_wipes_of_ne {call : Call} (h : ∀ color area, call ≠ .fill color area) :
    ¬ c.Wipes call := by
  cases call with
  | fill color area => exact absurd rfl (h color area)
  | outline | line | icon | text | int | fixed | light | move => exact id

/-! ### Drawings that leave it alone -/

/-- To empty the screen leaves the status area alone. -/
theorem spares_clearMain : c.Spares c.clearMain := by
  simp only [clearMain, clearTitle, clearRows, band, List.singleton_append, spares_cons, spares_nil,
    and_true]
  exact ⟨not_wipes_other (by decide) (by decide), not_wipes_black fun _ => by decide⟩

/-- After its first call, the status area has no other that would empty it. -/
theorem spares_statusArea_tail : c.Spares (c.statusArea r).tail := by
  simp [statusArea, clearStatus, heater, percentage, pictogram, apply_ite]

/-- A status area that was drawn last is found behind all others and behind all that takes it
away. -/
theorem LastArea.exists_madeAt (h : c.LastArea r calls) :
    ∃ n, MadeAt calls n (c.statusArea r) ∧
      (∀ r' k, MadeAt calls k (c.statusArea r') → k ≤ n) ∧
      ∀ d k, c.TakesAway d → MadeAt calls k d → k < n := by
  obtain ⟨before, later, rfl, hlater⟩ := h
  let calls := before ++ (c.statusArea r ++ later)
  have hmade : MadeAt calls before.length (c.statusArea r) := by
    simp [MadeAt, calls]
  have hafter : c.Spares (calls.drop (before.length + 1)) := by
    have hrest : calls.drop (before.length + 1) = (c.statusArea r).tail ++ later := by
      simp [calls, statusArea, clearStatus]
    rw [hrest]
    exact spares_append.mpr ⟨spares_statusArea_tail, hlater⟩
  have hcleared (k : Nat) (d : Drawing) (hd : MadeAt calls k (c.clear ++ d)) :
      k + 2 ≤ before.length :=
    le_of_spares hafter hd rfl wipes_clearStatus
  refine ⟨before.length, hmade, fun r' k hr' => ?_, fun d k htaken hd => ?_⟩
  · exact le_of_spares (i := 0) hafter hr' rfl wipes_clearStatus
  · cases htaken with
    | clear => exact Nat.lt_of_succ_lt (hcleared k [] (by simpa using hd))
    | mainMenu page miscPage => exact Nat.lt_of_succ_lt (hcleared k _ hd)
    | messageBox text =>
      obtain ⟨lines, hbox⟩ := c.head?_messageBox text
      have hfirst := List.head?_eq_getElem?.symm.trans hbox
      have hle : k + 0 ≤ before.length := le_of_spares hafter hd hfirst (wipes_messageBox hbox)
      refine Nat.lt_of_le_of_ne hle ?_
      -- A message box and the status area do not begin with the same call.
      rintro rfl
      have hsame := (hd.getElem?_eq hfirst).symm.trans (hmade.getElem?_eq (i := 0) rfl)
      simp [band, Color.popup, Color.black] at hsame

/-- The number beside a row leaves the status area alone. -/
theorem spares_figure {row : Nat} {f : Figure} {highlighted : Bool} :
    c.Spares (c.figure row f highlighted) := by
  simp only [figure]
  split <;> simp

/-- A cursor block leaves the status area alone. -/
theorem spares_cursorBlock {row : Nat} : c.Spares (c.cursorBlock row) := by
  simp only [cursorBlock, spares_cons, spares_nil, and_true]
  exact not_wipes_other (by decide) (by decide)

/-- To erase a cursor block leaves the status area alone. -/
theorem spares_eraseCursor {row : Nat} : c.Spares (c.eraseCursor row) := by
  simp only [eraseCursor, spares_cons, spares_nil, and_true]
  -- The rows are 39 pixels apart, and none of them begins where the status area does.
  refine not_wipes_black fun _ => ?_
  simp only [baseline, rowHeight, statusTop]
  omega

/-- A move of the cursor leaves the status area alone. -/
theorem spares_moveCursor {fromRow toRow : Nat} : c.Spares (c.moveCursor fromRow toRow) :=
  spares_append.mpr ⟨spares_eraseCursor, spares_cursorBlock⟩

/-- To empty a label leaves the status area alone. -/
theorem not_wipes_label {y y' : Int} :
    ¬ c.Wipes (.fill .black ⟨labelLeft, y, c.width, y'⟩) :=
  not_wipes_black fun h => absurd h (by decide)

/-- A row leaves the status area alone. -/
theorem spares_row {row icon : Nat} {label : String} : c.Spares (c.row row icon label) := by
  simp [Canvas.row, pictogram, not_wipes_label]

/-- The row that leads back leaves the status area alone. -/
theorem spares_backRow {selected : Bool} : c.Spares (c.backRow selected) := by
  cases selected <;> simp [backRow, pictogram, caption, not_wipes_label, spares_cursorBlock]

/-- The row of an entry leaves the status area alone. -/
theorem spares_itemRow {α : Type} [MenuItem α] {items : List α} {figures : List (Option Figure)}
    {item row : Nat} : c.Spares (c.itemRow items figures item row) := by
  unfold itemRow
  split
  · exact spares_nil
  · apply spares_append.mpr ⟨spares_row, ?_⟩
    split
    · exact spares_figure
    · exact spares_nil

/-- To shift the rows leaves the status area alone. -/
theorem spares_shiftRows {direction : Direction} : c.Spares (c.shiftRows direction) := by
  cases direction <;> simp [shiftRows, spares_moveCursor]

/-- To scroll a list leaves the status area alone if drawing its entries does. -/
theorem spares_scrollWith {s : Scroll} {entry : Nat → Nat → Drawing}
    (h : ∀ item row, c.Spares (entry item row)) : c.Spares (c.scrollWith s entry) := by
  cases s with
  | down item => exact spares_append.mpr ⟨spares_shiftRows, h _ _⟩
  | up item =>
    apply spares_append.mpr ⟨spares_shiftRows, ?_⟩
    split
    · exact spares_backRow
    · exact h _ _
  | highlight fromRow toRow => exact spares_moveCursor

/-- A button of the print screen leaves the status area alone. -/
theorem spares_printButton {index : Nat} {selected paused : Bool} :
    c.Spares (c.printButton index selected paused) := by
  have hbutton {x x' : Int} : ¬ c.Wipes (.fill .black ⟨x, 191, x', 251⟩) :=
    not_wipes_black fun _ => by decide
  cases selected <;> simp [printButton, pictogram, caption, hbutton]

/-- The notice of a finished print leaves the status area alone. -/
theorem spares_printFinished : c.Spares c.printFinished := by
  have hbuttons : ¬ c.Wipes (.fill .black ⟨0, 185, c.width - 1, statusTop⟩) :=
    not_wipes_black fun _ => by decide
  have htitle : ¬ c.Wipes (.fill .grey ⟨0, 0, c.width, titleHeight⟩) :=
    not_wipes_other (by decide) (by decide)
  simp [printFinished, clearTitle, band, titleCaption, caption, hbuttons, htitle]

/-- The progress of a print leaves the status area alone. -/
theorem spares_progress {p : Progress} : c.Spares (c.progress p) := by
  unfold progress hoursAndMinutes
  split <;> simp

/-- The answers to a question leave the status area alone. -/
theorem spares_confirmOrCancel {confirm : Bool} : c.Spares (c.confirmOrCancel confirm) := by
  have hanswer {color : Color} {x x' y y' : Int} (hcolor : color ≠ .black) (hx : x ≠ padding) :
      ¬ c.Wipes (.fill color ⟨x, y, x', y'⟩) :=
    not_wipes_fill (absurd · hcolor) fun _ h => absurd h hx
  cases confirm <;> simp [confirmOrCancel, caption] <;>
    exact ⟨hanswer (by decide) (by decide), hanswer (by decide) (by decide)⟩

/-- The box of notices has another height than every message box. -/
theorem not_wipes_noticeBox : ¬ c.Wipes (.fill .popup noticeBox) := by
  refine not_wipes_fill (by decide) fun _ _ lines => ?_
  simp only [noticeBox, messageBoxHeight, lineHeight, buttonHeight, padding, titleHeight]
  omega

/-- The button of a notice leaves the status area alone. -/
theorem spares_okButton {y : Int} : c.Spares (c.okButton y) := by
  simp [okButton, caption]

/-- The notices leave the status area alone. -/
theorem spares_notices : c.Spares c.homingNotice ∧ c.Spares c.tooColdNotice ∧
    c.Spares c.notAvailableNotice := by
  simp [homingNotice, tooColdNotice, notAvailableNotice, caption, spares_clearMain,
    spares_okButton, not_wipes_noticeBox]

/-- A question of the print screen leaves the status area alone. -/
theorem spares_pauseOrStop {stop confirm : Bool} : c.Spares (c.pauseOrStop stop confirm) := by
  simp [pauseOrStop, caption, spares_clearMain, spares_confirmOrCancel]

end Display.Canvas

end PrinterPanel
