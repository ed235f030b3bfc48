import Mathlib.Data.List.Forall2
import Mathlib.Data.List.Infix
import PrinterPanel.Text.Wrap

/-!
# Word wrap and greedy lines

`greedy` lays out words on lines that hold any number of bytes. It loses no character, and a message
box would show its first `maxLines` lines. The lines of `wrap` are these lines as far as each fits
into `lineRoom` bytes, which a line in ASCII always does; a line that does not fit is shown with a
part of its words only.
-/

namespace PrinterPanel.Text

/-! ### The words of a text -/

/-- The characters of a text that are not blank. -/
def shown (cs : List Char) : List Char :=
  cs.filter fun c => !isBlank c

/-- An empty text shows nothing. -/
@[simp] theorem shown_nil : shown [] = [] := rfl

/-- Two texts show what each of them does. -/
@[simp] theorem shown_append (a b : List Char) : shown (a ++ b) = shown a ++ shown b :=
  List.filter_append ..

/-- A space is not shown. -/
theorem shown_space (cs : List Char) : shown (' ' :: cs) = shown cs := rfl

/-- A word: at least one character, and no blank ones. -/
structure IsWord (word : List Char) : Prop where
  ne_nil : word ≠ []
  shown_eq : shown word = word

/-- A word has a character. -/
theorem IsWord.length_pos {word : List Char} (h : IsWord word) : 0 < word.length :=
  List.length_pos_iff.mpr h.ne_nil

/-- A part of a word that is not empty is a word again. -/
theorem IsWord.of_sublist {word part : List Char} (h : IsWord word) (hpart : part.Sublist word)
    (hne : part ≠ []) : IsWord part := by
  refine ⟨hne, List.filter_eq_self.mpr fun c hc => ?_⟩
  exact List.filter_eq_self.mp h.shown_eq c (hpart.mem hc)

/-- Reading a text from the right keeps its characters, in the word being read and in the words
after it. -/
theorem foldr_addChar (cs : List Char) :
    let acc := cs.foldr addChar ([], [])
    acc.1 ++ acc.2.flatten = shown cs ∧ shown acc.1 = acc.1 ∧ ∀ word ∈ acc.2, IsWord word := by
  induction cs with
  | nil => simp
  | cons c cs ih =>
    obtain ⟨hflat, hread, hwords⟩ := ih
    rw [List.foldr_cons]
    generalize cs.foldr addChar ([], []) = acc at hflat hread hwords
    obtain ⟨read, after⟩ := acc
    by_cases hc : isBlank c = true
    · by_cases hempty : read = []
      · subst hempty
        simpa [addChar, hc, shown] using And.intro hflat hwords
      · have hword : IsWord read := ⟨hempty, hread⟩
        simpa [addChar, hc, hempty, shown] using And.intro hflat ⟨hword, hwords⟩
    · have hshown : shown (c :: read) = c :: read := by
        simpa [shown, hc] using hread
      have hcons : shown (c :: cs) = c :: shown cs := by simp [shown, hc]
      simpa [addChar, hc, hcons, hflat] using And.intro hshown hwords

/-- The words of a text hold its characters that are not blank, in order. -/
theorem flatten_words (cs : List Char) : (words cs).flatten = shown cs := by
  obtain ⟨hflat, -, -⟩ := foldr_addChar cs
  rw [words, ← hflat]
  split
  · next h => rw [List.isEmpty_iff.mp h, List.nil_append]
  · rfl

/-- The words of a text are words. -/
theorem isWord_of_mem_words {cs word : List Char} (h : word ∈ words cs) : IsWord word := by
  obtain ⟨-, hread, hwords⟩ := foldr_addChar cs
  rw [words] at h
  split at h
  · exact hwords word h
  · next hne =>
    obtain rfl | h := List.mem_cons.mp h
    · exact ⟨fun h => hne (List.isEmpty_iff.mpr h), hread⟩
    · exact hwords word h

/-! ### Greedy lines -/

/-- How many full pieces are cut from a word, so that one to `width` characters of it remain. -/
def cuts (width : Nat) (word : List Char) : Nat :=
  (word.length - 1) / width

/-- The pieces of exactly `width` characters from the start of a word. -/
def fullPieces (width : Nat) (word : List Char) : List (List Char) :=
  (List.range (cuts width word)).map fun i => (word.drop (i * width)).take width

/-- What remains of a word after its full pieces. -/
def remainder (width : Nat) (word : List Char) : List Char :=
  word.drop (cuts width word * width)

/-- A line as a list of lines, without one that nothing stands on. -/
def closed (line : List Char) : List (List Char) :=
  if line = [] then [] else [line]

/-- Greedy lines of words that follow what stands on `line`. A word goes on the line if it fits
after a space. Otherwise it starts a new line: its full pieces are lines of their own, and the words
after it may join its remainder. -/
def greedy (width : Nat) : List Char → List (List Char) → List (List Char)
  | line, [] => closed line
  | line, word :: rest =>
    if line ≠ [] ∧ line.length + 1 + word.length ≤ width then
      greedy width (line ++ ' ' :: word) rest
    else closed line ++ fullPieces width word ++ greedy width (remainder width word) rest

/-- The lines of a text that a message box has to show. -/
def wholeLines (cs : List Char) (width : Nat) : List (List Char) :=
  (greedy (usableWidth width) [] (words cs)).take maxLines

section Pieces

variable {width : Nat} {word : List Char}

/-- A word that fits on a line is not cut. -/
theorem cuts_of_le (h : word.length ≤ width) : cuts width word = 0 := by
  obtain rfl | hwidth := Nat.eq_zero_or_pos width
  · exact Nat.div_zero _
  · exact Nat.div_eq_of_lt (by omega)

/-- A word that is longer than a line is cut at the end of the line, and then as what is left of it
is. -/
theorem cuts_of_lt (hwidth : 1 ≤ width) (h : width < word.length) :
    cuts width word = cuts width (word.drop width) + 1 := by
  have hlength : word.length - 1 = (word.drop width).length - 1 + width := by
    rw [List.length_drop]
    omega
  rw [cuts, hlength, Nat.add_div_right _ hwidth, cuts]

/-- Cutting a word piece by piece gives its full pieces and its remainder. -/
theorem chop_eq (hwidth : 1 ≤ width) (word : List Char) :
    chop width word = (fullPieces width word, remainder width word) := by
  fun_induction chop width word with
  | case1 word h tail ih =>
    have hcuts := cuts_of_lt hwidth h.2
    have hpieces :
        fullPieces width word = word.take width :: fullPieces width (word.drop width) := by
      simp only [fullPieces, hcuts, List.range_succ_eq_map, List.map_cons, List.map_map]
      simp [Function.comp_def, Nat.succ_mul, Nat.add_comm]
    have hremainder : remainder width word = remainder width (word.drop width) := by
      rw [remainder, remainder, hcuts, List.drop_drop, Nat.succ_mul, Nat.add_comm]
    rw [hpieces, hremainder, show tail = _ from ih]
  | case2 word h =>
    have hcuts : cuts width word = 0 := cuts_of_le (by omega)
    simp [fullPieces, remainder, hcuts]

/-- A full piece is as wide as a line. -/
theorem length_of_mem_fullPieces {piece : List Char} (h : piece ∈ fullPieces width word) :
    piece.length = width := by
  obtain ⟨i, hi, rfl⟩ := List.mem_map.mp h
  have hcut : (i + 1) * width ≤ cuts width word * width :=
    Nat.mul_le_mul_right width (List.mem_range.mp hi)
  have hall : cuts width word * width ≤ word.length - 1 := Nat.div_mul_le_self ..
  rw [Nat.succ_mul] at hcut
  rw [List.length_take, List.length_drop]
  omega

/-- Of a word, one to `width` characters remain. -/
theorem length_remainder (hwidth : 1 ≤ width) (hword : 0 < word.length) :
    0 < (remainder width word).length ∧ (remainder width word).length ≤ width := by
  have hcut : cuts width word * width ≤ word.length - 1 := Nat.div_mul_le_self ..
  have hrest : word.length - 1 < (cuts width word + 1) * width := by
    rw [cuts, ← Nat.mul_comm width]
    exact Nat.lt_mul_div_succ _ hwidth
  rw [Nat.succ_mul] at hrest
  rw [remainder, List.length_drop]
  omega

/-- The pieces of a word and its remainder are the word. -/
theorem flatten_fullPieces (hwidth : 1 ≤ width) (word : List Char) :
    (fullPieces width word).flatten ++ remainder width word = word := by
  suffices h : (chop width word).1.flatten ++ (chop width word).2 = word by
    rwa [chop_eq hwidth] at h
  fun_induction chop width word with
  | case1 word h tail ih => rw [List.flatten_cons, List.append_assoc, ih, List.take_append_drop]
  | case2 word h => rfl

/-- A word that fits on a line has no full pieces. -/
theorem fullPieces_of_le (h : word.length ≤ width) : fullPieces width word = [] := by
  rw [fullPieces, cuts_of_le h, List.range_zero, List.map_nil]

/-- A word that fits on a line remains whole. -/
theorem remainder_of_le (h : word.length ≤ width) : remainder width word = word := by
  rw [remainder, cuts_of_le h, Nat.zero_mul, List.drop_zero]

/-- The full pieces of a word are words. -/
theorem isWord_of_mem_fullPieces (hwidth : 1 ≤ width) (h : IsWord word) {piece : List Char}
    (hpiece : piece ∈ fullPieces width word) : IsWord piece := by
  have hlength := length_of_mem_fullPieces hpiece
  obtain ⟨i, -, rfl⟩ := List.mem_map.mp hpiece
  refine h.of_sublist ((List.take_sublist ..).trans (List.drop_sublist ..)) fun hnil => ?_
  rw [hnil, List.length_nil] at hlength
  omega

/-- What remains of a word is a word. -/
theorem isWord_remainder (hwidth : 1 ≤ width) (h : IsWord word) :
    IsWord (remainder width word) := by
  have hpos := (length_remainder hwidth h.length_pos).1
  exact h.of_sublist (List.drop_sublist ..) (List.length_pos_iff.mp hpos)

end Pieces

/-- A line that is closed keeps its characters. -/
@[simp] theorem flatten_closed (line : List Char) : (closed line).flatten = line := by
  unfold closed
  split
  · next h => rw [h, List.flatten_nil]
  · exact List.flatten_singleton

/-- A line is closed unless it is empty. -/
theorem mem_closed {line done : List Char} : done ∈ closed line ↔ done = line ∧ line ≠ [] := by
  unfold closed
  split
  · next h => simp [h]
  · next h => simp [h]

/-- Greedy lines hold all characters of their words. -/
theorem shown_flatten_greedy {width : Nat} (hwidth : 1 ≤ width) (line : List Char)
    (words : List (List Char)) :
    shown (greedy width line words).flatten = shown line ++ shown words.flatten := by
  fun_induction greedy width line words with
  | case1 line => simp
  | case2 line word rest h ih => simp [ih, shown_space]
  | case3 line word rest h ih =>
    have hword : shown (fullPieces width word).flatten ++ shown (remainder width word) =
        shown word := by
      rw [← shown_append, flatten_fullPieces hwidth]
    simp [ih, ← hword]

/-- What holds of every greedy line. The words have a property `W`, and `P` is what the layout keeps
of the line it is filling: a word that joins the line keeps it, and the remainder of a word has it
again. Then `Q` holds of all lines, if full pieces and completed lines have it. -/
theorem forall_mem_greedy {P Q W : List Char → Prop} {width : Nat}
    (hclose : ∀ line, line ≠ [] → P line → Q line)
    (hpiece : ∀ word, W word → ∀ piece ∈ fullPieces width word, Q piece)
    (hstart : ∀ word, W word → P (remainder width word))
    (hjoin : ∀ line word, line.length + 1 + word.length ≤ width → P line → W word →
      P (line ++ ' ' :: word))
    {line : List Char} {words : List (List Char)} (hline : P line)
    (hwords : ∀ word ∈ words, W word) :
    ∀ done ∈ greedy width line words, Q done := by
  have hclosed {line : List Char} (hline : P line) : ∀ done ∈ closed line, Q done := by
    intro done hdone
    obtain ⟨rfl, hne⟩ := mem_closed.mp hdone
    exact hclose done hne hline
  fun_induction greedy width line words with
  | case1 line => exact hclosed hline
  | case2 line word rest h ih =>
    obtain ⟨hword, hrest⟩ := List.forall_mem_cons.mp hwords
    exact ih (hjoin line word h.2 hline hword) hrest
  | case3 line word rest h ih =>
    obtain ⟨hword, hrest⟩ := List.forall_mem_cons.mp hwords
    have hlater := ih (hstart word hword) hrest
    intro done hdone
    rw [List.append_assoc, List.mem_append, List.mem_append] at hdone
    obtain hdone | hdone | hdone := hdone
    · exact hclosed hline done hdone
    · exact hpiece word hword done hdone
    · exact hlater done hdone

/-- Greedy lines are not empty, and they are no wider than asked for. -/
theorem length_greedy {width : Nat} (hwidth : 1 ≤ width) {words : List (List Char)}
    (hwords : ∀ word ∈ words, IsWord word) :
    ∀ done ∈ greedy width [] words, done ≠ [] ∧ done.length ≤ width := by
  refine forall_mem_greedy (P := fun line => line.length ≤ width) (fun line hne hle => ⟨hne, hle⟩)
    (fun word hword piece hpiece => ?_)
    (fun word hword => (length_remainder hwidth hword.length_pos).2)
    (fun line word hfits _ _ => ?_) (Nat.zero_le _) hwords
  · have hlength := length_of_mem_fullPieces hpiece
    exact ⟨(isWord_of_mem_fullPieces hwidth hword hpiece).ne_nil, by omega⟩
  · rw [List.length_append, List.length_cons]
    omega

/-- Lines that lose nothing of a text: they are not empty, each is no wider than asked for, there
are no more of them than a box shows, and they show the start of the text, or all of it if there is
room for another line. -/
structure KeepsText (cs : List Char) (width : Nat) (lines : List (List Char)) : Prop where
  ne_nil : ∀ line ∈ lines, line ≠ []
  length_le : ∀ line ∈ lines, line.length ≤ usableWidth width
  count_le : lines.length ≤ maxLines
  shown_prefix : shown lines.flatten <+: shown cs
  shown_eq : lines.length < maxLines → shown lines.flatten = shown cs

/-- The first greedy lines lose nothing of their text. -/
theorem keepsText_wholeLines (cs : List Char) (width : Nat) :
    KeepsText cs width (wholeLines cs width) := by
  have hwidth := one_le_usableWidth width
  have hlines : ∀ line ∈ greedy (usableWidth width) [] (words cs),
      line ≠ [] ∧ line.length ≤ usableWidth width :=
    length_greedy hwidth fun _ => isWord_of_mem_words
  have hshown : shown (greedy (usableWidth width) [] (words cs)).flatten = shown cs := by
    rw [shown_flatten_greedy hwidth, flatten_words, shown_nil, List.nil_append]
    exact List.filter_eq_self.mpr fun c hc => (List.mem_filter.mp hc).2
  refine ⟨fun line h => (hlines line (List.mem_of_mem_take h)).1,
    fun line h => (hlines line (List.mem_of_mem_take h)).2, List.length_take_le .., ?_, ?_⟩
  · rw [← hshown]
    exact (List.take_prefix ..).flatten.filter _
  · intro hfew
    rw [wholeLines, List.length_take] at hfew
    rw [wholeLines, List.take_of_length_le (by omega), hshown]

/-! ### The lines of a message box -/

/-- What the buffer of a line holds, against the line that it stands for. -/
structure Holds (text line : List Char) : Prop where
  size_le : size text ≤ lineRoom
  eq_line : size line ≤ lineRoom → text = line
  shown_lt : lineRoom < size line → (shown text).length < (shown line).length

/-- A text that a line holds shows no more than the line. -/
theorem Holds.shown_le {text line : List Char} (h : Holds text line) :
    (shown text).length ≤ (shown line).length := by
  by_cases hsize : size line ≤ lineRoom
  · rw [h.eq_line hsize]
  · exact Nat.le_of_lt (h.shown_lt (by omega))

/-- A text that is not empty takes a byte at least. -/
theorem size_pos {cs : List Char} (h : cs ≠ []) : 0 < size cs := by
  obtain ⟨c, cs, rfl⟩ := List.exists_cons_of_ne_nil h
  have := c.utf8Size_pos
  rw [size_cons]
  omega

/-- A space takes one byte. -/
theorem size_space (cs : List Char) : size (' ' :: cs) = 1 + size cs := rfl

/-- A word that begins a line is stored as a whole or not at all. -/
theorem holds_store_nil {word : List Char} (hword : IsWord word) : Holds (store [] word) word := by
  by_cases hsize : size word ≤ lineRoom
  · rw [store, if_pos (by simpa using hsize)]
    exact ⟨hsize, fun _ => rfl, fun h => absurd h (by omega)⟩
  · rw [store, if_neg (by simpa using hsize)]
    refine ⟨Nat.zero_le _, fun h => absurd h hsize, fun _ => ?_⟩
    rw [hword.shown_eq]
    exact hword.length_pos

/-- A space changes nothing of what a line shows. It fills one byte more if there is one left. -/
theorem store_space {text : List Char} (h : size text ≤ lineRoom) :
    shown (store text [' ']) = shown text ∧
      size (store text [' ']) = min (size text + 1) lineRoom := by
  by_cases hroom : size text + size [' '] ≤ lineRoom
  · rw [store, if_pos hroom, shown_append, size_append]
    exact ⟨List.append_nil _, (Nat.min_eq_left hroom).symm⟩
  · rw [store, if_neg hroom]
    rw [size_space, size_nil] at hroom
    exact ⟨rfl, by omega⟩

/-- A word that joins a line is lost once the line overruns the buffer. The space before it may be
stored without it. -/
theorem Holds.store_word {text line word : List Char} (h : Holds text line) (hword : IsWord word) :
    Holds (store (store text [' ']) word) (line ++ ' ' :: word) := by
  obtain ⟨hshown, hsize⟩ := store_space h.size_le
  have hpos := size_pos hword.ne_nil
  have hlonger : (shown (line ++ ' ' :: word)).length = (shown line).length + word.length := by
    rw [shown_append, shown_space, hword.shown_eq, List.length_append]
  have hlarger : size (line ++ ' ' :: word) = size line + (1 + size word) := by
    rw [size_append, size_space]
  by_cases hfits : size line + (1 + size word) ≤ lineRoom
  · obtain rfl := h.eq_line (by omega)
    have hroom : size text + size [' '] ≤ lineRoom := by
      rw [size_space, size_nil]
      omega
    have hspace : store text [' '] = text ++ [' '] := if_pos hroom
    have hall : store (store text [' ']) word = text ++ ' ' :: word := by
      rw [store, if_pos (by omega), hspace, List.append_assoc, List.singleton_append]
    rw [hall]
    exact ⟨by omega, fun _ => rfl, fun hover => absurd hover (by omega)⟩
  · have hover : ¬ size (line ++ ' ' :: word) ≤ lineRoom := by omega
    by_cases hstored : size (store text [' ']) + size word ≤ lineRoom
    · -- The word finds room only where the line has lost a word before.
      have hlost : lineRoom < size line := by
        by_contra hnone
        rw [h.eq_line (by omega)] at hsize hstored
        omega
      have hless := h.shown_lt hlost
      rw [store, if_pos hstored]
      refine ⟨by rwa [size_append], fun hle => absurd hle hover, fun _ => ?_⟩
      rw [shown_append, hshown, hword.shown_eq, hlonger, List.length_append]
      omega
    · have hle := h.shown_le
      have hchars := hword.length_pos
      rw [store, if_neg hstored]
      refine ⟨by omega, fun hle => absurd hle hover, fun _ => ?_⟩
      rw [hshown, hlonger]
      omega

/-- What a line that is being filled is against the line that it stands for. -/
structure Draft.Fills (d : Draft) (line : List Char) : Prop where
  used_eq : d.used = line.length
  holds : Holds d.text line

/-- A draft that has just been begun holds an empty line. -/
theorem Draft.fills_blank : blank.Fills [] :=
  ⟨rfl, Nat.zero_le _, fun _ => rfl, fun h => absurd h (Nat.not_lt_zero _)⟩

/-- A line that is being filled counts no characters exactly if nothing stands on it. -/
theorem Draft.Fills.used_eq_zero {d : Draft} {line : List Char} (h : d.Fills line) :
    d.used = 0 ↔ line = [] := by
  rw [h.used_eq, List.length_eq_zero_iff]

/-- Lines of a message box that stand for other lines, one for one. -/
def Prints (texts lines : List (List Char)) : Prop :=
  List.Forall₂ Holds texts lines

/-- A draft that is finished prints its line. -/
theorem Draft.Fills.finished {d : Draft} {line : List Char} (h : d.Fills line) :
    Prints d.finished (closed line) := by
  unfold Draft.finished closed
  simp only [h.used_eq_zero]
  split
  · exact .nil
  · exact .cons h.holds .nil

/-- The first word of a draft begins its line. -/
theorem Draft.fills_first {word : List Char} (hword : IsWord word) : (blank.add word).Fills word :=
  ⟨rfl, holds_store_nil hword⟩

/-- A further word of a draft joins its line behind a space. -/
theorem Draft.Fills.join {d : Draft} {line word : List Char} (h : d.Fills line) (hline : line ≠ [])
    (hword : IsWord word) : (d.add word).Fills (line ++ ' ' :: word) := by
  have hused : d.used ≠ 0 := fun h0 => hline (h.used_eq_zero.mp h0)
  rw [Draft.add, if_neg hused, Draft.widthWith, if_neg hused]
  refine ⟨?_, h.holds.store_word hword⟩
  rw [List.length_append, List.length_cons, h.used_eq]
  dsimp only
  omega

section Layout

variable {width : Nat} {d : Draft} {line word : List Char}

/-- A word that fits after a space joins the line. -/
theorem Draft.Fills.place_join (h : d.Fills line)
    (hjoins : line ≠ [] ∧ line.length + 1 + word.length ≤ width) :
    place width d word = ([], d.add word) := by
  have hused : d.used ≠ 0 := fun h0 => hjoins.1 (h.used_eq_zero.mp h0)
  rw [place, if_pos]
  rw [Draft.widthWith, if_neg hused, h.used_eq]
  exact hjoins.2

/-- Any other word completes the line, if anything stands on it, and starts a new one. -/
theorem Draft.Fills.place_start (hwidth : 1 ≤ width) (h : d.Fills line)
    (hstarts : ¬ (line ≠ [] ∧ line.length + 1 + word.length ≤ width)) :
    place width d word = (d.finished ++ (fullPieces width word).map (store []),
      blank.add (remainder width word)) := by
  rw [place, chop_eq hwidth]
  split
  · next hfits =>
    simp only [Draft.widthWith, h.used_eq_zero] at hfits
    -- Only a line with nothing on it takes the word: the new line is that line.
    have hline : line = [] := by
      by_contra hne
      rw [if_neg hne, h.used_eq] at hfits
      exact hstarts ⟨hne, hfits⟩
    subst hline
    rw [if_pos rfl] at hfits
    have hblank : d = blank := by
      obtain ⟨text, used⟩ := d
      obtain rfl : text = [] := h.holds.eq_line (Nat.zero_le _)
      obtain rfl : used = 0 := h.used_eq
      rfl
    rw [hblank, fullPieces_of_le hfits, remainder_of_le hfits]
    rfl
  · rfl

/-- Laying out words keeps the lines of a message box those of the greedy layout. -/
theorem Draft.Fills.layWords (hwidth : 1 ≤ width) (h : d.Fills line) {words : List (List Char)}
    (hwords : ∀ word ∈ words, IsWord word) :
    Prints (Text.layWords width d words) (greedy width line words) := by
  induction words generalizing d line with
  | nil => exact h.finished
  | cons word rest ih =>
    have hword : IsWord word := hwords word List.mem_cons_self
    have hrest : ∀ other ∈ rest, IsWord other := fun other hother =>
      hwords other (List.mem_cons_of_mem _ hother)
    rw [Text.layWords, greedy]
    split
    · next hjoins =>
      rw [h.place_join hjoins]
      exact ih (h.join hjoins.1 hword) hrest
    · next hstarts =>
      have hpieces : Prints ((fullPieces width word).map (store [])) (fullPieces width word) :=
        List.forall₂_map_left_iff.mpr <| List.forall₂_same.mpr fun piece hpiece =>
          holds_store_nil (isWord_of_mem_fullPieces hwidth hword hpiece)
      have hnext := fills_first (isWord_remainder hwidth hword)
      rw [h.place_start hwidth hstarts]
      exact List.rel_append (List.rel_append h.finished hpieces) (ih hnext hrest)

end Layout

/-- The lines of a message box stand for the first greedy lines. -/
theorem prints_wrap (cs : List Char) (width : Nat) : Prints (wrap cs width) (wholeLines cs width) :=
  List.forall₂_take maxLines <|
    Draft.fills_blank.layWords (one_le_usableWidth width) fun _ => isWord_of_mem_words

namespace Prints

variable {texts lines : List (List Char)}

/-- Lines that all fit in are printed as they are. -/
theorem eq_of_size_le (h : Prints texts lines) (hsize : ∀ line ∈ lines, size line ≤ lineRoom) :
    texts = lines := by
  induction h with
  | nil => rfl
  | cons hline _ ih =>
    rw [hline.eq_line (hsize _ List.mem_cons_self),
      ih fun line hmem => hsize line (List.mem_cons_of_mem _ hmem)]

/-- Lines that are printed show no more than the lines do. -/
theorem shown_le (h : Prints texts lines) :
    (shown texts.flatten).length ≤ (shown lines.flatten).length := by
  induction h with
  | nil => exact Nat.le_refl _
  | cons hline _ ih =>
    have := hline.shown_le
    simp only [List.flatten_cons, shown_append, List.length_append]
    omega

/-- A line that overruns its buffer makes the lines show less. -/
theorem shown_lt (h : Prints texts lines) (hover : ∃ line ∈ lines, lineRoom < size line) :
    (shown texts.flatten).length < (shown lines.flatten).length := by
  obtain ⟨line, hmem, hlong⟩ := hover
  induction h with
  | nil => exact absurd hmem List.not_mem_nil
  | @cons text first texts lines hfirst hlater ih =>
    simp only [List.flatten_cons, shown_append, List.length_append]
    obtain rfl | hmem := List.mem_cons.mp hmem
    · have := hfirst.shown_lt hlong
      have : (shown texts.flatten).length ≤ (shown lines.flatten).length := shown_le hlater
      omega
    · have := hfirst.shown_le
      have := ih hmem
      omega

end Prints

/-- What is lost on the way to a message box. The first greedy lines lose nothing of a text, and the
lines of a box stand for them, no wider than asked for. They are these lines if each fits the
buffer of a line; a line that does not fit shows less. So a text that has room for another line
is kept exactly if all its lines fit. -/
theorem wrap_keepsText_iff (cs : List Char) (width : Nat) :
    KeepsText cs width (wholeLines cs width) ∧
      Prints (wrap cs width) (wholeLines cs width) ∧
      (∀ line ∈ wrap cs width, line.length ≤ usableWidth width) ∧
      ((∀ line ∈ wholeLines cs width, size line ≤ lineRoom) →
        wrap cs width = wholeLines cs width) ∧
      ((wholeLines cs width).length < maxLines →
        (KeepsText cs width (wrap cs width) ↔
          ∀ line ∈ wholeLines cs width, size line ≤ lineRoom)) := by
  have hwhole := keepsText_wholeLines cs width
  have hprints := prints_wrap cs width
  refine ⟨hwhole, hprints, fun line h => length_le_of_mem_wrap h, hprints.eq_of_size_le, ?_⟩
  intro hfew
  constructor
  · intro hkept
    have hcount : (wrap cs width).length < maxLines := hprints.length_eq.trans_lt hfew
    by_contra hover
    have hlost := hprints.shown_lt (by simpa using hover)
    rw [hkept.shown_eq hcount, hwhole.shown_eq hfew] at hlost
    exact Nat.lt_irrefl _ hlost
  · intro hsize
    rwa [hprints.eq_of_size_le hsize]

/-- A word of 21 characters that takes 42 bytes leaves nothing but an empty line. -/
theorem wrap_loses_word : ¬ ∀ cs width, KeepsText cs width (wrap cs width) := by
  intro h
  have hwrap : wrap (List.replicate 21 'é') 40 = [[]] := by decide
  have hkept := h (List.replicate 21 'é') 40
  rw [hwrap] at hkept
  exact hkept.ne_nil [] List.mem_cons_self rfl

/-! ### Text in ASCII -/

/-- The characters of a full piece are those of its word. -/
theorem mem_of_mem_fullPieces {width : Nat} {word piece : List Char}
    (h : piece ∈ fullPieces width word) {c : Char} (hc : c ∈ piece) : c ∈ word := by
  obtain ⟨i, -, rfl⟩ := List.mem_map.mp h
  exact List.mem_of_mem_drop (List.mem_of_mem_take hc)

/-- Greedy lines of words in ASCII are in ASCII. -/
theorem ascii_greedy {width : Nat} {words : List (List Char)}
    (hwords : ∀ word ∈ words, ∀ c ∈ word, c.toNat < 128) :
    ∀ done ∈ greedy width [] words, ∀ c ∈ done, c.toNat < 128 := by
  refine forall_mem_greedy (P := fun line => ∀ c ∈ line, c.toNat < 128)
    (fun line _ hline => hline)
    (fun word hword piece hpiece c hc => hword c (mem_of_mem_fullPieces hpiece hc))
    (fun word hword c hc => hword c (List.mem_of_mem_drop hc))
    (fun line word _ hline hword c hc => ?_) (fun c hc => absurd hc List.not_mem_nil) hwords
  obtain hc | hc := List.mem_append.mp hc
  · exact hline c hc
  · obtain rfl | hc := List.mem_cons.mp hc
    · decide
    · exact hword c hc

/-- The width that is used is at most the room of a line. -/
theorem usableWidth_le (width : Nat) : usableWidth width ≤ lineRoom :=
  Nat.max_le.mpr ⟨by decide, Nat.min_le_right ..⟩

/-- A character in ASCII takes one byte. -/
theorem size_of_ascii {cs : List Char} (h : ∀ c ∈ cs, c.toNat < 128) : size cs = cs.length := by
  induction cs with
  | nil => rfl
  | cons c cs ih =>
    have hone : c.utf8Size = 1 := by
      have hc : c.toNat < 128 := h c List.mem_cons_self
      exact Char.utf8Size_eq_one_iff.mpr (UInt32.le_iff_toNat_le.mpr (Nat.le_of_lt_succ hc))
    rw [size_cons, hone, ih fun d hd => h d (List.mem_cons_of_mem _ hd), List.length_cons]
    omega

/-- A text in ASCII is shown on its first greedy lines. -/
theorem wrap_eq_greedy {cs : List Char} (hascii : ∀ c ∈ cs, c.toNat < 128) (width : Nat) :
    wrap cs width = (greedy (usableWidth width) [] (words cs)).take maxLines := by
  refine (prints_wrap cs width).eq_of_size_le fun line hline => ?_
  have hwords : ∀ word ∈ words cs, ∀ c ∈ word, c.toNat < 128 := by
    intro word hword c hc
    have hshown : c ∈ shown cs := flatten_words cs ▸ List.mem_flatten_of_mem hword hc
    exact hascii c (List.mem_of_mem_filter hshown)
  have hline' : ∀ c ∈ line, c.toNat < 128 :=
    ascii_greedy hwords line (List.mem_of_mem_take hline)
  calc size line = line.length := size_of_ascii hline'
    _ ≤ usableWidth width := (keepsText_wholeLines cs width).length_le line hline
    _ ≤ lineRoom := usableWidth_le width

/-- The seven letters of a word do not fit on five columns: two of them are left on a line of their
own, where the next word joins them. -/
theorem wrap_eq_greedy_pieces :
    let text := ['g', 'o', ' ', 'a', 'b', 'c', 'd', 'e', 'f', 'g', ' ', 'h', 'i']
    (∀ c ∈ text, c.toNat < 128) ∧
      wrap text 5 = [['g', 'o'], ['a', 'b', 'c', 'd', 'e'], ['f', 'g', ' ', 'h', 'i']] := by
  intro text
  have hascii : ∀ c ∈ text, c.toNat < 128 := by simp [text]
  refine ⟨hascii, ?_⟩
  rw [wrap_eq_greedy hascii]
  decide +kernel

end PrinterPanel.Text
