import PrinterPanel.Proofs.KeyDrawings
import PrinterPanel.Proofs.Positions

/-!
# Parts of the picture

Whatever the panel draws is put together from parts: a frame, a row of a list, a cursor block, a
button, a box. The parts of a list stand on its rows, and since the windows show the cursors and
edits stay on the row they were opened on, that row is always one of the six.
-/

namespace PrinterPanel

open Menu

namespace Display

/-- A part of the picture. -/
inductive Part where
  /-- An empty screen with a title from the menu text. -/
  | frame (icon : Nat)
  /-- An empty panel with a title in plain text. -/
  | plainTitle (title : String)
  /-- An empty list. -/
  | emptyRows
  /-- The cursor block of a row. -/
  | cursorBlock (row : Nat)
  /-- A row without its cursor block. -/
  | eraseCursor (row : Nat)
  /-- Label, picture and line of a row. -/
  | row (row icon : Nat) (label : String)
  /-- The row that leads back. -/
  | backRow (selected : Bool)
  /-- The number beside a row. -/
  | figure (row : Nat) (f : Figure) (highlighted : Bool)
  /-- The rows shifted by one. -/
  | shiftRows (direction : Direction)
  /-- The notice of an empty file list. -/
  | noMedia
  /-- The main menu. -/
  | mainMenu (page : Nat) (miscPage : Bool)
  /-- A tile of the main menu. -/
  | tile (index : Nat) (selected miscPage : Bool)
  /-- The parts of the print screen that stay, and its buttons. -/
  | printScreen (file : String) (selected : Nat) (paused : Bool)
  /-- A button of the print screen. -/
  | printButton (index : Nat) (selected paused : Bool)
  /-- The progress of a print. -/
  | progress (p : Progress)
  /-- The end of a print. -/
  | printFinished
  /-- A question of the print screen. -/
  | pauseOrStop (stop confirm : Bool)
  /-- The answers to a question. -/
  | confirmOrCancel (confirm : Bool)
  /-- The notice while the axes are homed. -/
  | homingNotice
  /-- The notice that the hotend is too cold. -/
  | tooColdNotice
  /-- The notice that a function is missing. -/
  | notAvailableNotice
  /-- A message with its box. -/
  | messageBox (text : String)
  /-- The status area. -/
  | statusArea (s : Status)
  /-- The page of machine data. -/
  | machineData (l : Limits) (version website : String)
  /-- The probing page. -/
  | probePage (um : Int) (step : Nat) (outOfRange full : Bool)
  /-- A pictogram with its number, one of those that a library has room for. -/
  | iconPage (icon : Fin 256)

namespace Part

/-- The calls that draw a part. -/
def drawing (c : Canvas) : Part → Drawing
  | frame icon => c.frame icon
  | plainTitle title => c.clear ++ c.titleText title
  | emptyRows => c.clearRows
  | cursorBlock n => c.cursorBlock n
  | eraseCursor n => c.eraseCursor n
  | row n icon label => c.row n icon label
  | backRow selected => c.backRow selected
  | figure n f highlighted => c.figure n f highlighted
  | shiftRows direction => c.shiftRows direction
  | noMedia => c.noMedia
  | mainMenu page miscPage => c.mainMenu page miscPage
  | tile index selected miscPage => c.tile index selected miscPage
  | printScreen file selected paused => c.printScreen file selected paused
  | printButton index selected paused => c.printButton index selected paused
  | progress p => c.progress p
  | printFinished => c.printFinished
  | pauseOrStop stop confirm => c.pauseOrStop stop confirm
  | confirmOrCancel confirm => c.confirmOrCancel confirm
  | homingNotice => c.homingNotice
  | tooColdNotice => c.tooColdNotice
  | notAvailableNotice => c.notAvailableNotice
  | messageBox text => c.messageBox text
  | statusArea s => c.statusArea s
  | machineData l version website => c.machineData l version website
  | probePage um step outOfRange full => c.probePage um step outOfRange full
  | iconPage icon => c.iconPage icon

/-- The row of a list that a part stands on. -/
def row? : Part → Option Nat
  | cursorBlock n | eraseCursor n | row n _ _ | figure n _ _ => some n
  | backRow _ => some 0
  | _ => none

/-- A part of a list stands on one of the six rows. -/
def Fits (part : Part) : Prop := ∀ row, part.row? = some row → row ≤ bottomRow

/-- A part fits if its row is one of the six. -/
theorem fits_of_row {part : Part} {row : Nat} (hpart : part.row? = some row)
    (hrow : row ≤ bottomRow) : part.Fits := by
  intro row' hrow'
  rw [hpart] at hrow'
  exact Option.some.inj hrow' ▸ hrow

/-- A part that stands on no row fits. -/
theorem fits_of_none {part : Part} (hpart : part.row? = none) : part.Fits := by
  intro row hrow
  rw [hpart] at hrow
  contradiction

end Part

namespace Canvas

/-- Calls that draw one part after the other. A part may break off where a call fails. -/
inductive Composed (c : Canvas) : Drawing → Prop where
  | nil : Composed c []
  | part (part : Part) {shown rest : Drawing} (hfits : part.Fits)
    (hshown : shown <+: part.drawing c) (hrest : Composed c rest) : Composed c (shown ++ rest)

variable {c : Canvas} {d d' : Drawing}

/-- A part that fits is put together from parts. -/
theorem composed_part (part : Part) (h : part.Fits) : c.Composed (part.drawing c) := by
  simpa using Composed.part part h (List.prefix_refl _) .nil

/-- Two drawings that are put together from parts make one that is. -/
theorem Composed.append (h : c.Composed d) (h' : c.Composed d') : c.Composed (d ++ d') := by
  induction h with
  | nil => exact h'
  | part part hfits hshown _ ih =>
    rw [List.append_assoc]
    exact .part part hfits hshown ih

/-- What breaks off is still put together from parts. -/
theorem Composed.cut (h : c.Composed d) (hd : d' <+: d) : c.Composed d' := by
  induction h generalizing d' with
  | nil => exact List.prefix_nil.mp hd ▸ .nil
  | @part part shown rest hfits hshown hrest ih =>
    obtain hwithin | ⟨later, rfl⟩ :=
      List.prefix_or_prefix_of_prefix hd (List.prefix_append shown rest)
    · simpa using Composed.part part hfits (hwithin.trans hshown) .nil
    · exact .part part hfits hshown (ih ((List.prefix_append_right_inj shown).mp hd))

/-- Drawings of all items make one that is put together from parts if each of them is. -/
theorem composed_flatMap {α : Type} {items : List α} {f : α → Drawing}
    (h : ∀ x ∈ items, c.Composed (f x)) : c.Composed (items.flatMap f) := by
  induction items with
  | nil => exact .nil
  | cons x rest ih =>
    rw [List.flatMap_cons]
    exact (h x List.mem_cons_self).append (ih fun y hy => h y (List.mem_cons_of_mem x hy))

/-- What holds of the calls of every part holds of all that is put together from them. -/
theorem Composed.forall_mem {P : Call → Prop} (h : c.Composed d)
    (hpart : ∀ part : Part, part.Fits → ∀ call ∈ part.drawing c, P call) :
    ∀ call ∈ d, P call := by
  induction h with
  | nil => simp
  | part part hfits hshown _ ih =>
    intro call hcall
    obtain hhere | hlater := List.mem_append.mp hcall
    · exact hpart part hfits call (hshown.subset hhere)
    · exact ih call hlater

/-! ### Lists -/

/-- The row that leads back is a part. -/
theorem composed_backRow {selected : Bool} : c.Composed (c.backRow selected) :=
  composed_part (.backRow selected) (Part.fits_of_row rfl (Nat.zero_le _))

/-- A row is a part. -/
theorem composed_row {row icon : Nat} {label : String} (hrow : row ≤ bottomRow) :
    c.Composed (c.row row icon label) :=
  composed_part (.row row icon label) (Part.fits_of_row rfl hrow)

/-- The number beside a row is a part. -/
theorem composed_figure {row : Nat} {f : Figure} {highlighted : Bool} (hrow : row ≤ bottomRow) :
    c.Composed (c.figure row f highlighted) :=
  composed_part (.figure row f highlighted) (Part.fits_of_row rfl hrow)

/-- A cursor block is a part. -/
theorem composed_cursorBlock {row : Nat} (hrow : row ≤ bottomRow) :
    c.Composed (c.cursorBlock row) :=
  composed_part (.cursorBlock row) (Part.fits_of_row rfl hrow)

/-- A move of the cursor is put together from parts. -/
theorem composed_moveCursor {fromRow toRow : Nat} (hfrom : fromRow ≤ bottomRow)
    (hto : toRow ≤ bottomRow) : c.Composed (c.moveCursor fromRow toRow) :=
  (composed_part (.eraseCursor fromRow) (Part.fits_of_row rfl hfrom)).append
    (composed_cursorBlock hto)

/-- The row of an entry is put together from parts, with or without a number. -/
theorem composed_itemRow {α : Type} [MenuItem α] {items : List α} {figures : List (Option Figure)}
    {item row : Nat} (hrow : row ≤ bottomRow) : c.Composed (c.itemRow items figures item row) := by
  unfold itemRow
  split
  · exact .nil
  · apply (composed_row hrow).append
    split
    · exact composed_figure hrow
    · exact .nil

/-- The visible entries of a list stand on its rows, and so does the cursor. -/
theorem composed_listWith {count : Nat} {l : ListView} {entry : Nat → Nat → Drawing}
    (h : l.Fits count) (hentry : ∀ item row, row ≤ bottomRow → c.Composed (entry item row)) :
    c.Composed (c.listWith count l entry) := by
  unfold listWith
  refine ((composed_part .emptyRows (Part.fits_of_none rfl)).append
    (composed_flatMap fun item hitem => ?_)).append (composed_cursorBlock h.row_le)
  split
  · exact composed_backRow
  · apply hentry
    have hvisible := (List.mem_range'_1.mp hitem).2
    have hlow := h.low
    simp only [Window.top, Window.lastVisible] at hvisible
    simp only [Window.rowOf]
    omega

/-- A step of the cursor draws on the rows. -/
theorem composed_scrollWith {count : Nat} {l : ListView} {forwards : Bool} {scroll : Scroll}
    {entry : Nat → Nat → Drawing} (h : l.Fits count)
    (hentry : ∀ item row, row ≤ bottomRow → c.Composed (entry item row))
    (hstep : (l.step forwards count).1 = some scroll) :
    c.Composed (c.scrollWith scroll entry) := by
  have hshift (direction : Direction) : c.Composed (c.shiftRows direction) :=
    composed_part (.shiftRows direction) (Part.fits_of_none rfl)
  cases scroll with
  | down item => exact (hshift .up).append (hentry _ _ (Nat.le_refl _))
  | up item =>
    apply (hshift .down).append
    split
    · exact composed_backRow
    · exact hentry _ _ (Nat.zero_le _)
  | highlight fromRow toRow =>
    have hlow := h.low
    have hbelow := h.below
    obtain ⟨hfrom, hto⟩ : fromRow ≤ bottomRow ∧ toRow ≤ bottomRow := by
      unfold ListView.step at hstep
      dsimp only at hstep
      split at hstep
      · contradiction
      · next hmoved =>
        obtain hsame | ⟨-, hmove⟩ := h.step_cases forwards
        · contradiction
        have hfollow := Option.some.inj hstep
        unfold Window.follow at hfollow
        split at hfollow
        · contradiction
        · split at hfollow
          · contradiction
          · obtain ⟨rfl, rfl⟩ := Scroll.highlight.inj hfollow
            simp only [Window.rowOf]
            omega
    exact composed_moveCursor hfrom hto

end Canvas

/-! ### The backlight -/

/-- The level that a call sets the backlight to. -/
def Call.level? : Call → Option Nat
  | light level => some level
  | _ => none

namespace Call

variable {style : TextStyle} {x y : Int}

/-- A filled area sets no backlight level. -/
@[simp] theorem level?_fill (color : Color) (area : Rect) : (fill color area).level? = none := rfl

/-- An outline sets no backlight level. -/
@[simp] theorem level?_outline (color : Color) (area : Rect) :
    (outline color area).level? = none := rfl

/-- A line sets no backlight level. -/
@[simp] theorem level?_line (color : Color) (x0 y0 x1 y1 : Int) :
    (line color x0 y0 x1 y1).level? = none := rfl

/-- A picture sets no backlight level. -/
@[simp] theorem level?_icon (library number : Nat) : (icon library number x y).level? = none := rfl

/-- A text sets no backlight level. -/
@[simp] theorem level?_text (s : String) : (text style x y s).level? = none := rfl

/-- A number sets no backlight level. -/
@[simp] theorem level?_int (digits : Nat) (value : Int) :
    (int style digits x y value).level? = none := rfl

/-- A number with decimals sets no backlight level. -/
@[simp] theorem level?_fixed (digits decimals : Nat) (value : Int) :
    (fixed style digits decimals x y value).level? = none := rfl

/-- A shifted area sets no backlight level. -/
@[simp] theorem level?_move (direction : Direction) (distance : Int) (color : Color)
    (area : Rect) : (move direction distance color area).level? = none := rfl

/-- The level that a choice of calls sets is that of the call that is chosen. -/
@[simp] theorem level?_ite {b : Prop} [Decidable b] (call call' : Call) :
    (if b then call else call').level? = if b then call.level? else call'.level? := by
  split <;> rfl

end Call

/-- A drawing without calls for the backlight. -/
def Unlit (d : Drawing) : Prop := ∀ call ∈ d, call.level? = none

section Unlit

variable {c : Canvas} {d d' : Drawing}

/-- An empty drawing does not touch the backlight. -/
@[simp] theorem unlit_nil : Unlit [] := fun _ h => nomatch h

/-- A drawing does not touch the backlight if neither its first call nor the others do. -/
@[simp] theorem unlit_cons {call : Call} :
    Unlit (call :: d) ↔ call.level? = none ∧ Unlit d := List.forall_mem_cons

/-- Two drawings do not touch the backlight if neither of them does. -/
@[simp] theorem unlit_append : Unlit (d ++ d') ↔ Unlit d ∧ Unlit d' := List.forall_mem_append

/-- Drawings of all items do not touch the backlight if none of them does. -/
@[simp] theorem unlit_flatMap {α : Type} {items : List α} {f : α → Drawing} :
    Unlit (items.flatMap f) ↔ ∀ x ∈ items, Unlit (f x) := List.forall_mem_flatMap

/-- A choice of drawings does not touch the backlight if the chosen one does not. -/
@[simp] theorem unlit_ite {b : Prop} [Decidable b] :
    Unlit (if b then d else d') ↔ if b then Unlit d else Unlit d' := by
  split <;> rfl

/-- An empty screen does not touch the backlight. -/
theorem unlit_clearMain : Unlit c.clearMain := by
  simp [Canvas.clearMain, Canvas.clearTitle, Canvas.clearRows, Canvas.band]

/-- An empty panel does not touch the backlight. -/
theorem unlit_clear : Unlit c.clear := by
  simp [Canvas.clear, Canvas.clearStatus, Canvas.band, unlit_clearMain]

/-- A frame does not touch the backlight. -/
theorem unlit_frame {icon : Nat} : Unlit (c.frame icon) := by
  simp [Canvas.frame, Canvas.titleCaption, Canvas.caption, unlit_clearMain]

/-- A move of the cursor does not touch the backlight. -/
theorem unlit_moveCursor {fromRow toRow : Nat} : Unlit (c.moveCursor fromRow toRow) := by
  simp [Canvas.moveCursor, Canvas.eraseCursor, Canvas.cursorBlock]

/-- The row that leads back does not touch the backlight. -/
theorem unlit_backRow {selected : Bool} : Unlit (c.backRow selected) := by
  simp [Canvas.backRow, Canvas.cursorBlock, Canvas.caption, pictogram]

/-- A tile of the main menu does not touch the backlight. -/
theorem unlit_tile {index : Nat} {selected miscPage : Bool} :
    Unlit (c.tile index selected miscPage) := by
  simp [Canvas.tile, Canvas.caption, pictogram]

/-- A button of the print screen does not touch the backlight. -/
theorem unlit_printButton {index : Nat} {selected paused : Bool} :
    Unlit (c.printButton index selected paused) := by
  simp [Canvas.printButton, Canvas.caption, pictogram]

/-- The button of a notice does not touch the backlight. -/
theorem unlit_okButton {y : Int} : Unlit (c.okButton y) := by
  simp [Canvas.okButton, Canvas.caption]

/-- The answers to a question do not touch the backlight. -/
theorem unlit_confirmOrCancel {confirm : Bool} : Unlit (c.confirmOrCancel confirm) := by
  simp [Canvas.confirmOrCancel, Canvas.caption]

/-- A message does not touch the backlight. -/
theorem unlit_messageBox {text : String} : Unlit (c.messageBox text) := by
  have hlines {lines : List (List Char)} {f : Nat → List Char → Call}
      (hf : ∀ i line, (f i line).level? = none) : Unlit (lines.mapIdx f) := by
    intro call hcall
    obtain ⟨i, h, rfl⟩ := List.mem_mapIdx.mp hcall
    exact hf i _
  simp only [Canvas.messageBox, unlit_append, unlit_cons, unlit_nil, unlit_okButton, and_true]
  exact ⟨⟨rfl, rfl⟩, hlines fun _ _ => rfl⟩

/-- The probing page does not touch the backlight. -/
theorem unlit_probePage {um : Int} {step : Nat} {outOfRange full : Bool} :
    Unlit (c.probePage um step outOfRange full) := by
  simp [Canvas.probePage, Canvas.probeStepLabels, Canvas.probeStepBox, Canvas.probeFrame,
    Canvas.titleCaption, Canvas.caption, Canvas.centred, unlit_clear]

/-- Parts are drawn without the backlight. -/
theorem Part.unlit (part : Part) : Unlit (part.drawing c) := by
  cases part with
  | frame icon => exact unlit_frame
  | plainTitle title => simp [drawing, Canvas.titleText, unlit_clear]
  | emptyRows => simp [drawing, Canvas.clearRows, Canvas.band]
  | cursorBlock row => simp [drawing, Canvas.cursorBlock]
  | eraseCursor row => simp [drawing, Canvas.eraseCursor]
  | row row icon label => simp [drawing, Canvas.row, pictogram]
  | backRow selected => exact unlit_backRow
  | figure row f highlighted => simp [drawing, Canvas.figure]
  | shiftRows direction =>
    cases direction <;> simp [drawing, Canvas.shiftRows, unlit_moveCursor]
  | noMedia => simp [drawing, Canvas.noMedia]
  | mainMenu page miscPage =>
    simp [drawing, Canvas.mainMenu, Canvas.caption, unlit_clear, unlit_tile]
  | tile index selected miscPage => exact unlit_tile
  | printScreen file selected paused =>
    simp [drawing, Canvas.printScreen, Canvas.centred, pictogram, unlit_frame,
      unlit_printButton]
  | printButton index selected paused => exact unlit_printButton
  | progress p => simp [drawing, Canvas.progress, Canvas.hoursAndMinutes]
  | printFinished =>
    simp [drawing, Canvas.printFinished, Canvas.clearTitle, Canvas.titleCaption, Canvas.band,
      Canvas.caption]
  | pauseOrStop stop confirm =>
    simp [drawing, Canvas.pauseOrStop, Canvas.caption, unlit_clearMain,
      unlit_confirmOrCancel]
  | confirmOrCancel confirm => exact unlit_confirmOrCancel
  | homingNotice =>
    simp [drawing, Canvas.homingNotice, Canvas.caption, unlit_clearMain]
  | tooColdNotice =>
    simp [drawing, Canvas.tooColdNotice, Canvas.caption, unlit_clearMain,
      unlit_okButton]
  | notAvailableNotice =>
    simp [drawing, Canvas.notAvailableNotice, unlit_okButton]
  | messageBox text => exact unlit_messageBox
  | statusArea s =>
    simp [drawing, Canvas.statusArea, Canvas.clearStatus, Canvas.band, Canvas.heater,
      Canvas.percentage, pictogram]
  | machineData l version website =>
    simp [drawing, Canvas.machineData, pictogram, unlit_frame, unlit_backRow]
  | probePage um step outOfRange full => exact unlit_probePage
  | iconPage icon =>
    simp [drawing, Canvas.iconPage, Canvas.centred, pictogram, unlit_clear]

end Unlit

end Display

open Display (Canvas Part Drawing)

namespace Panel

variable {c : Canvas} {p q : Panel} {d : Drawing}

/-- Every window shows its cursor, and the edit in progress is on one of the six rows. -/
structure Drawable (c : Canvas) (p : Panel) : Prop where
  canvas : p.canvas = c
  placed : p.Placed
  edit : ∀ e, p.edit = some e → e.row ≤ bottomRow

/-- An edit stays on the row of the entry that has opened it. -/
theorem invariant_drawable (c : Canvas) : Invariant (Drawable c) where
  attends latch knob idleTicks dimmed h hlatch :=
    ⟨h.canvas, invariant_placed.attends latch knob idleTicks dimmed h.placed hlatch, h.edit⟩
  notes job report message h :=
    ⟨h.canvas, invariant_placed.notes job report message h.placed, h.edit⟩
  tracks print probe h := ⟨h.canvas, invariant_placed.tracks print probe h.placed, h.edit⟩
  homes h hitem := ⟨h.canvas, invariant_placed.homes h.placed hitem, h.edit⟩
  homed h := ⟨h.canvas, invariant_placed.homed h.placed, h.edit⟩
  moves h hmoves := ⟨h.canvas, invariant_placed.moves h.placed hmoves, h.edit⟩
  lists browser h hfree hloaded :=
    ⟨h.canvas, invariant_placed.lists browser h.placed hfree hloaded, h.edit⟩
  goes screen h hfree hscreen :=
    ⟨h.canvas, invariant_placed.goes screen h.placed hfree hscreen, h.edit⟩
  covers caller h hfree hcaller :=
    ⟨h.canvas, invariant_placed.covers caller h.placed hfree hcaller, h.edit⟩
  returns screen h hfree hcaller :=
    ⟨h.canvas, invariant_placed.returns screen h.placed hfree hcaller, h.edit⟩
  edits m field value h hfree hopens := by
    refine ⟨h.canvas, invariant_placed.edits m field value h.placed hfree hopens, ?_⟩
    rintro _ ⟨⟩
    exact (h.placed.lists m).row_le
  adjusts e value h hedit := by
    refine ⟨h.canvas, invariant_placed.adjusts e value h.placed hedit, ?_⟩
    rintro _ ⟨⟩
    exact h.edit e hedit
  leaves {p} h := by
    refine ⟨?_, invariant_placed.leaves h.placed, by simp⟩
    unfold abandonEdit
    split <;> exact h.canvas
  stores presets h := ⟨h.canvas, invariant_placed.stores presets h.placed, h.edit⟩

/-- A panel that is switched on is drawable on the canvas of its settings. -/
theorem drawable_ofSettings (s : Settings) (width height : Nat) :
    (ofSettings s width height).Drawable ⟨width, height, s.language⟩ :=
  ⟨rfl, placed_ofSettings s width height, by simp [ofSettings]⟩

/-- A panel stays drawable when another screen comes up. -/
theorem Drawable.shows (h : p.Drawable c) (screen : Screen) :
    ({ p with screen := screen }).Drawable c :=
  ⟨h.canvas, h.placed.shows screen, h.edit⟩

/-! ### Pictures -/

/-- The pictogram that is shown is one that a library has room for. -/
theorem shownIcon_lt (p : Panel) : p.shownIcon < 256 :=
  Nat.lt_succ_of_le (Nat.min_le_right _ _)

/-- The row of an entry of any list is put together from parts. -/
theorem composed_entryRow (m : ListMenu) (item : Nat) {row : Nat} (hrow : row ≤ bottomRow) :
    p.canvas.Composed (p.entryRow m item row) := by
  cases m with
  | files =>
    simp only [entryRow, fileRow]
    split
    · exact .nil
    · exact Canvas.composed_row hrow
    · exact Canvas.composed_row hrow
  | misc =>
    simp only [entryRow, macroRow]
    split
    · exact .nil
    · exact Canvas.composed_row hrow
  | prepare | control | axes | temperature | motion | tune | preset _ =>
    simp only [entryRow]
    exact Canvas.composed_itemRow hrow

/-- The rows of a list in its window are put together from parts. -/
theorem composed_listRows (h : p.Placed) (m : ListMenu) :
    p.canvas.Composed (p.listRows m) := by
  unfold listRows
  split
  · exact ((Canvas.composed_part .emptyRows (Part.fits_of_none rfl)).append
      Canvas.composed_backRow).append (Canvas.composed_part .noMedia (Part.fits_of_none rfl))
  · exact Canvas.composed_listWith (h.lists m) fun item _ => composed_entryRow m item

/-- The status area is put together from parts. -/
theorem composed_statusPicture : p.canvas.Composed p.statusPicture := by
  unfold statusPicture
  split
  · exact .nil
  · exact Canvas.composed_part (.statusArea _) (Part.fits_of_none rfl)

/-- The picture of a list is put together from parts. -/
theorem composed_listPicture (h : p.Placed) (m : ListMenu) :
    p.canvas.Composed (p.listPicture m) := by
  have hframe (icon : Nat) : p.canvas.Composed (p.canvas.frame icon) :=
    Canvas.composed_part (.frame icon) (Part.fits_of_none rfl)
  have htitle : p.canvas.Composed (p.listTitle m) := by
    cases m with
    | misc => exact Canvas.composed_part (.plainTitle "Misc") (Part.fits_of_none rfl)
    | preset material => cases material <;> exact hframe _
    | files | prepare | control | axes | temperature | motion | tune => exact hframe _
  refine (htitle.append (composed_listRows h m)).append ?_
  split
  · exact .nil
  · exact composed_statusPicture

/-- The picture of a print is put together from parts. -/
theorem composed_printPicture : p.canvas.Composed p.printPicture := by
  apply (Canvas.composed_part (.printScreen _ _ _) (Part.fits_of_none rfl)).append
  split
  · exact Canvas.composed_part .printFinished (Part.fits_of_none rfl)
  · exact Canvas.composed_part (.progress _) (Part.fits_of_none rfl)

/-- Every screen is put together from parts. -/
theorem composed_picture (h : p.Placed) (screen : Screen) :
    p.canvas.Composed (p.picture screen) := by
  have hwhole (part : Part) (hpart : part.row? = none) :
      p.canvas.Composed (part.drawing p.canvas) :=
    Canvas.composed_part part (Part.fits_of_none hpart)
  cases screen
  case mainMenu => exact hwhole (.mainMenu _ _) rfl
  case selectFile => exact composed_listPicture h .files
  case prepare => exact composed_listPicture h .prepare
  case control => exact composed_listPicture h .control
  case misc => exact composed_listPicture h .misc
  case axisMove => exact composed_listPicture h .axes
  case temperature => exact composed_listPicture h .temperature
  case motion => exact composed_listPicture h .motion
  case tune => exact composed_listPicture h .tune
  case plaPreheat => exact composed_listPicture h (.preset .pla)
  case tpuPreheat => exact composed_listPicture h (.preset .tpu)
  case info => exact (hwhole (.machineData _ _ _) rfl).append composed_statusPicture
  case printProcess => exact composed_printPicture.append composed_statusPicture
  case printWindow => exact hwhole (.pauseOrStop _ _) rfl
  case featureNotAvailable => exact hwhole .notAvailableNotice rfl
  case homing => exact hwhole .homingNotice rfl
  case tooCold => exact hwhole .tooColdNotice rfl
  case manualProbe => exact hwhole (.probePage _ _ _ true) rfl
  case iconFinder => exact hwhole (.iconPage ⟨p.shownIcon, p.shownIcon_lt⟩) rfl
  all_goals exact .nil

/-- What a key draws is put together from parts. -/
theorem Drawable.composed_draws (hp : p.Drawable c) (hq : q.Drawable c) (h : p.Draws q d) :
    c.Composed d := by
  have hpart (part : Part) (hrow : part.row? = none) : c.Composed (part.drawing c) :=
    Canvas.composed_part part (Part.fits_of_none hrow)
  cases h with
  | nothing => exact .nil
  | screen => exact hq.canvas ▸ composed_picture hq.placed q.screen
  | scroll m forwards s _ hstep =>
    exact hp.canvas ▸ Canvas.composed_scrollWith (hp.placed.lists m)
      (fun item _ => composed_entryRow m item) hstep
  | tiles =>
    rw [hp.canvas]
    exact (hpart (.tile _ _ _) rfl).append (hpart (.tile _ _ _) rfl)
  | buttons =>
    rw [hp.canvas]
    exact (hpart (.printButton _ _ _) rfl).append (hpart (.printButton _ _ _) rfl)
  | resumed =>
    rw [hq.canvas]
    exact hpart (.printButton 1 true false) rfl
  | answers confirm =>
    rw [hp.canvas]
    exact hpart (.confirmOrCancel confirm) rfl
  | icon =>
    rw [hq.canvas]
    exact hpart (.iconPage ⟨q.shownIcon, q.shownIcon_lt⟩) rfl
  | probe =>
    rw [probePicture, hq.canvas]
    exact hpart (.probePage _ _ _ _) rfl
  | edited e hedit =>
    rw [hq.canvas]
    exact Canvas.composed_figure (hq.edit e hedit)
  | settled e hedit =>
    rw [hq.canvas]
    exact Canvas.composed_figure (hp.edit e hedit)

end Panel

end PrinterPanel
