import PrinterPanel.Text.Blank
import PrinterPanel.Text.Fit

/-!
# Word wrap for message boxes

Words go on a line as long as they fit its width in characters; a word longer than a line is cut
into pieces. A line is kept in a buffer of `lineRoom` bytes: text that overruns the buffer is left
out of the line, although it counts for the width.
-/

namespace PrinterPanel.Text

/-- Bytes kept of one line. -/
def lineRoom : Nat := 40

/-- Most lines that a message box shows. -/
def maxLines : Nat := 8

/-- Append a piece to the text of a line, unless the line has no room for it. -/
def store (line piece : List Char) : List Char :=
  if size line + size piece ≤ lineRoom then line ++ piece else line

/-- A line that is being filled. -/
structure Draft where
  /-- What the line holds. -/
  text : List Char
  /-- Characters that the line counts as used. -/
  used : Nat
  deriving DecidableEq, Repr

/-- A line with nothing on it. -/
def Draft.blank : Draft := ⟨[], 0⟩

/-- Width that the line would use with one more word on it. -/
def Draft.widthWith (d : Draft) (word : List Char) : Nat :=
  if d.used = 0 then word.length else d.used + 1 + word.length

/-- Put a word on the line, after a space unless it is the first one. -/
def Draft.add (d : Draft) (word : List Char) : Draft :=
  ⟨store (if d.used = 0 then d.text else store d.text [' ']) word, d.widthWith word⟩

/-- The line as finished text, if a word was put on it. -/
def Draft.finished (d : Draft) : List (List Char) :=
  if d.used = 0 then [] else [d.text]

/-- Full pieces of `width` characters from the start of a word, as long as more than one line is
left, and the rest of the word. -/
def chop (width : Nat) (word : List Char) : List (List Char) × List Char :=
  if _h : 0 < width ∧ width < word.length then
    let tail := chop width (word.drop width)
    (word.take width :: tail.1, tail.2)
  else ([], word)
termination_by word.length
decreasing_by
  rw [List.length_drop]
  omega

/-- Lay out one word: the lines it completes and the line it ends on. -/
def place (width : Nat) (d : Draft) (word : List Char) : List (List Char) × Draft :=
  if d.widthWith word ≤ width then ([], d.add word)
  else
    let pieces := chop width word
    (d.finished ++ pieces.1.map (store []), Draft.blank.add pieces.2)

/-- Lay out words one after the other, without a limit on the number of lines. -/
def layWords (width : Nat) : Draft → List (List Char) → List (List Char)
  | d, [] => d.finished
  | d, word :: rest =>
    let placed := place width d word
    placed.1 ++ layWords width placed.2 rest

/-- Width that is used for a requested one: between one character and a full line. -/
def usableWidth (width : Nat) : Nat :=
  max 1 (min width lineRoom)

/-- Greedy word wrap; lines after the last one a box shows are dropped. -/
def wrap (cs : List Char) (width : Nat) : List (List Char) :=
  (layWords (usableWidth width) .blank (words cs)).take maxLines

/-! ### The size of a message -/

/-- A line has room for one character at least. -/
theorem one_le_usableWidth (width : Nat) : 1 ≤ usableWidth width := Nat.le_max_left _ _

/-- A line takes no more than the piece that is added to it, which may be left out. -/
theorem length_store_le (line piece : List Char) :
    (store line piece).length ≤ line.length + piece.length := by
  unfold store
  split
  · exact Nat.le_of_eq List.length_append
  · omega

/-- A line with no more characters than it counts as used, which are no more than fit. -/
structure Draft.Within (width : Nat) (d : Draft) : Prop where
  text_le : d.text.length ≤ d.used
  used_le : d.used ≤ width

/-- An empty draft keeps to any width. -/
theorem Draft.within_blank (width : Nat) : blank.Within width := ⟨Nat.le_refl _, Nat.zero_le _⟩

/-- A word adds no more characters than it counts for. -/
theorem Draft.Within.add {width : Nat} {d : Draft} (h : d.Within width) {word : List Char}
    (hfits : d.widthWith word ≤ width) : (d.add word).Within width := by
  refine ⟨?_, hfits⟩
  have htext := h.text_le
  have hword (line : List Char) := length_store_le line word
  unfold Draft.add widthWith
  dsimp only
  split
  · have := hword d.text
    omega
  · have hspace : (store d.text [' ']).length ≤ d.text.length + 1 := length_store_le d.text [' ']
    have := hword (store d.text [' '])
    omega

/-- The finished lines of a draft keep to its width. -/
theorem Draft.Within.length_le {width : Nat} {d : Draft} (h : d.Within width) {line : List Char}
    (hline : line ∈ d.finished) : line.length ≤ width := by
  unfold Draft.finished at hline
  split at hline
  · contradiction
  · obtain rfl := List.mem_singleton.mp hline
    exact Nat.le_trans h.text_le h.used_le

/-- The pieces of a word, and the rest of it, are no wider than a line. -/
theorem length_chop_le {width : Nat} (hwidth : 1 ≤ width) (word : List Char) :
    (∀ piece ∈ (chop width word).1, piece.length ≤ width) ∧ (chop width word).2.length ≤ width := by
  fun_induction chop width word with
  | case1 word h tail ih =>
    refine ⟨?_, ih.2⟩
    intro piece hpiece
    obtain rfl | hlater := List.mem_cons.mp hpiece
    · exact List.length_take_le width word
    · exact ih.1 piece hlater
  | case2 word h =>
    refine ⟨by simp, ?_⟩
    dsimp only
    omega

/-- Laying out a word completes lines that are no wider than asked for, and begins another one. -/
theorem length_place_le {width : Nat} (hwidth : 1 ≤ width) {d : Draft} (h : d.Within width)
    (word : List Char) :
    (∀ line ∈ (place width d word).1, line.length ≤ width) ∧
      (place width d word).2.Within width := by
  unfold place
  split
  · next hfits => exact ⟨by simp, h.add hfits⟩
  · obtain ⟨hpieces, hrest⟩ := length_chop_le hwidth word
    refine ⟨?_, (Draft.within_blank width).add hrest⟩
    intro line hline
    obtain hdone | hpiece := List.mem_append.mp hline
    · exact h.length_le hdone
    · obtain ⟨piece, hmem, rfl⟩ := List.mem_map.mp hpiece
      have hstored : (store [] piece).length ≤ 0 + piece.length := length_store_le [] piece
      have := hpieces piece hmem
      omega

/-- Words that are laid onto a draft keep to its width. -/
theorem length_layWords_le {width : Nat} (hwidth : 1 ≤ width) {d : Draft} (h : d.Within width)
    (words : List (List Char)) : ∀ line ∈ layWords width d words, line.length ≤ width := by
  induction words generalizing d with
  | nil => exact fun line hline => h.length_le hline
  | cons word rest ih =>
    obtain ⟨hplaced, hnext⟩ := length_place_le hwidth h word
    intro line hline
    obtain hhere | hlater := List.mem_append.mp hline
    · exact hplaced line hhere
    · exact ih hnext line hlater

/-- Lines beyond the last one that can be shown are dropped. -/
theorem length_wrap_le (cs : List Char) (width : Nat) : (wrap cs width).length ≤ maxLines :=
  List.length_take_le _ _

/-- No line of a message is wider than what is used of the requested width. -/
theorem length_le_of_mem_wrap {cs line : List Char} {width : Nat} (h : line ∈ wrap cs width) :
    line.length ≤ usableWidth width :=
  length_layWords_le (one_le_usableWidth width) (Draft.within_blank _) (words cs) line
    (List.mem_of_mem_take h)

end PrinterPanel.Text
