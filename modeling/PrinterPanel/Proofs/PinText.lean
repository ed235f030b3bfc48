import Mathlib.Data.List.Basic
import Mathlib.Data.List.TakeWhile
import Mathlib.Tactic.Tauto
import PrinterPanel.Settings.Pin

/-!
# How pins are written

The texts that are read as a pin are those of a small grammar: blanks, the mark of the pull, the
mark of an active-low pin, a name with or without a chip, and blanks again. Each part of the pin
that is read can be found in the text, and a text that the grammar does not have is refused.
-/

namespace PrinterPanel

namespace Text

/-! ### Trimming -/

/-- A text that neither starts nor ends with a blank. -/
structure Trimmed (cs : List Char) : Prop where
  first : ∀ c ∈ cs.head?, isBlank c = false
  last : ∀ c ∈ cs.getLast?, isBlank c = false

/-- A text without blanks is trimmed. -/
theorem Trimmed.of_forall {cs : List Char} (h : ∀ c ∈ cs, isBlank c = false) : Trimmed cs where
  first _ hc := h _ (List.mem_of_head? hc)
  last _ hc := h _ (List.mem_of_getLast? hc)

/-- Nothing is dropped in front of a text that starts with no blank. -/
theorem dropWhile_isBlank_of_first {cs : List Char} (h : ∀ c ∈ cs.head?, isBlank c = false) :
    cs.dropWhile isBlank = cs := by
  cases cs with
  | nil => rfl
  | cons c rest => simp [h c rfl]

/-- What is left behind leading blanks starts with no blank. -/
theorem first_dropWhile_isBlank (cs : List Char) :
    ∀ c ∈ (cs.dropWhile isBlank).head?, isBlank c = false := by
  intro c hc
  have h := List.head?_dropWhile_not isBlank cs
  rw [Option.mem_def.mp hc] at h
  exact h

/-- A text between blanks is what trimming leaves, if it is trimmed itself. -/
theorem trim_eq {before core after : List Char} (hcore : Trimmed core)
    (hbefore : ∀ c ∈ before, isBlank c) (hafter : ∀ c ∈ after, isBlank c) :
    trim (before ++ core ++ after) = core := by
  have hblank : ∀ c ∈ after.reverse, isBlank c := fun c hc => hafter c (List.mem_reverse.mp hc)
  have hlast : ∀ c ∈ core.reverse.head?, isBlank c = false := by
    rw [List.head?_reverse]
    exact hcore.last
  unfold trim
  rw [List.append_assoc, List.dropWhile_append_of_pos hbefore]
  cases core with
  | nil => rw [List.nil_append, List.dropWhile_eq_nil_iff.mpr hafter]; rfl
  | cons c rest =>
    have hfirst : (c :: rest ++ after).dropWhile isBlank = c :: rest ++ after :=
      dropWhile_isBlank_of_first hcore.first
    rw [hfirst, List.reverse_append, List.dropWhile_append_of_pos hblank,
      dropWhile_isBlank_of_first hlast, List.reverse_reverse]

/-- Trimming leaves a text that is trimmed. -/
theorem trimmed_trim (cs : List Char) : Trimmed (trim cs) := by
  constructor
  · -- What is cut off at the end leaves the first character as it is.
    intro c hc
    have hbehind : (trim cs) <+: cs.dropWhile isBlank := by
      rw [← List.reverse_suffix, trim, List.reverse_reverse]
      exact List.dropWhile_suffix _
    obtain ⟨after, hafter⟩ := hbehind
    refine first_dropWhile_isBlank cs c ?_
    rw [← hafter, Option.mem_def, List.head?_append, Option.mem_def.mp hc]
    rfl
  · rw [trim, List.getLast?_reverse]
    exact first_dropWhile_isBlank _

/-- Trimming takes away blanks and nothing else. -/
theorem exists_trim (cs : List Char) : ∃ before after, (∀ c ∈ before, isBlank c) ∧
    (∀ c ∈ after, isBlank c) ∧ cs = before ++ trim cs ++ after := by
  refine ⟨cs.takeWhile isBlank, ((cs.dropWhile isBlank).reverse.takeWhile isBlank).reverse,
    fun c hc => List.mem_takeWhile_imp hc,
    fun c hc => List.mem_takeWhile_imp (List.mem_reverse.mp hc), ?_⟩
  rw [trim, List.append_assoc, ← List.reverse_append, List.takeWhile_append_dropWhile,
    List.reverse_reverse, List.takeWhile_append_dropWhile]

/-! ### The first separator -/

/-- A text has no separator, or it is split at the first one. -/
theorem split_cases (sep : Char) (cs : List Char) :
    (sep ∉ cs ∧ cs.dropWhile (· != sep) = []) ∨
    ∃ first second, cs = first ++ sep :: second ∧ sep ∉ first ∧
      cs.takeWhile (· != sep) = first ∧ cs.dropWhile (· != sep) = sep :: second := by
  by_cases hsep : sep ∈ cs
  · obtain ⟨first, second, rfl, hfirst⟩ := List.eq_append_cons_of_mem hsep
    have hother : ∀ c ∈ first, (c != sep) = true :=
      fun c hc => bne_iff_ne.mpr fun heq => hfirst (heq ▸ hc)
    refine .inr ⟨first, second, rfl, hfirst, ?_, ?_⟩
    · rw [List.takeWhile_append_of_pos hother]
      simp
    · rw [List.dropWhile_append_of_pos hother]
      simp
  · refine .inl ⟨hsep, List.dropWhile_eq_nil_iff.mpr fun c hc => ?_⟩
    exact bne_iff_ne.mpr fun heq => hsep (heq ▸ hc)

end Text

open Text

/-! ### The grammar -/

/-- The mark of a pull. -/
def Pull.mark : Pull → List Char
  | floating => []
  | up => ['^']
  | down => ['~']

namespace Pin

/-- The mark of a pin that is active when it is low. -/
def lowMark (activeLow : Bool) : List Char := if activeLow then ['!'] else []

/-- A text of ASCII letters, digits and underscores. -/
structure Word (cs : List Char) : Prop where
  ne_nil : cs ≠ []
  chars : ∀ c ∈ cs, c.isAlphanum ∨ c = '_'

/-- The names of pins, with or without a chip. -/
inductive Name : List Char → Prop where
  | bare {pin : List Char} (hpin : Word pin) : Name pin
  | onChip {chip pin : List Char} (hchip : Word chip) (hpin : Word pin) : Name (chip ++ ':' :: pin)

/-- A pin as it is written without blanks around it. -/
def spelling (pin : Pin) : List Char :=
  pin.pull.mark ++ (lowMark pin.activeLow ++ pin.name.toList)

/-- A pin with a name that fits its place. -/
structure WellNamed (pin : Pin) : Prop where
  name : Name pin.name.toList
  room : size pin.name.toList ≤ nameRoom

/-- A text that says what a pin is, between blanks. -/
structure Spells (cs : List Char) (pin : Pin) : Prop extends WellNamed pin where
  text : ∃ before after, (∀ c ∈ before, isBlank c) ∧ (∀ c ∈ after, isBlank c) ∧
    cs = before ++ pin.spelling ++ after

variable {cs rest : List Char} {c : Char} {pin : Pin}

/-! ### Names -/

/-- The letters and digits are those of ASCII. -/
theorem isAlphanum_iff (c : Char) :
    c.isAlphanum ↔ ('A' ≤ c ∧ c ≤ 'Z' ∨ 'a' ≤ c ∧ c ≤ 'z') ∨ '0' ≤ c ∧ c ≤ '9' := by
  change ((decide ('A' ≤ c ∧ c ≤ 'Z') || (decide ('a' ≤ c) && decide (c ≤ 'z'))) ||
    (decide ('0' ≤ c) && decide (c ≤ '9'))) = true ↔ _
  simp only [Bool.or_eq_true, Bool.and_eq_true, decide_eq_true_eq]

/-- The characters of a name are letters, digits and underscores. -/
theorem isNameChar_iff (c : Char) : isNameChar c ↔ c.isAlphanum ∨ c = '_' := by
  simp only [isNameChar, isAlphanum_iff, Bool.or_eq_true, Bool.and_eq_true, decide_eq_true_eq,
    beq_iff_eq]
  tauto

/-- A part of a name is a word. -/
theorem isPart_iff (cs : List Char) : isPart cs ↔ Word cs := by
  simp only [isPart, Bool.and_eq_true, Bool.not_eq_true', List.isEmpty_eq_false_iff,
    List.all_eq_true, isNameChar_iff]
  exact ⟨fun h => ⟨h.1, h.2⟩, fun h => ⟨h.ne_nil, h.chars⟩⟩

/-- No other character stands in a word. -/
theorem Word.not_mem (h : Word cs) (hc : ¬ (c.isAlphanum ∨ c = '_')) : c ∉ cs :=
  fun hmem => hc (h.chars c hmem)

/-- The texts that are accepted as a name are the names of the grammar. -/
theorem isName_iff (cs : List Char) : isName cs ↔ Name cs := by
  unfold isName
  obtain ⟨hnone, hdrop⟩ | ⟨first, second, heq, hfirst, htake, hdrop⟩ := split_cases ':' cs
  · rw [hdrop]
    refine (isPart_iff cs).trans ⟨.bare, fun h => ?_⟩
    cases h with
    | bare hpin => exact hpin
    | onChip => simp at hnone
  · rw [hdrop, htake]
    simp only [Bool.and_eq_true, isPart_iff]
    subst heq
    refine ⟨fun h => .onChip h.1 h.2, fun h => ?_⟩
    generalize hcs : first ++ ':' :: second = cs at h
    cases h with
    | bare hpin =>
      have hcolon : ':' ∉ first ++ ':' :: second := hcs ▸ hpin.not_mem (by decide)
      simp at hcolon
    | @onChip chip pin hchip hpin =>
      -- Both splits are at the first colon.
      obtain ⟨rfl, -, rfl⟩ := (List.append_cons_inj_of_notMem (hchip.not_mem (by decide))
        (hpin.not_mem (by decide))).mp hcs.symm
      exact ⟨hchip, hpin⟩

/-- A name has letters, digits, underscores and colons only. -/
theorem Name.chars (h : Name cs) : ∀ c ∈ cs, c.isAlphanum ∨ c = '_' ∨ c = ':' := by
  intro c hc
  cases h with
  | bare hpin => exact (hpin.chars c hc).imp_right .inl
  | onChip hchip hpin =>
    rcases List.mem_append.mp hc with hc | hc
    · exact (hchip.chars c hc).imp_right .inl
    · rcases List.mem_cons.mp hc with rfl | hc
      · exact .inr (.inr rfl)
      · exact (hpin.chars c hc).imp_right .inl

/-- A name does not start with a mark. -/
theorem Name.first_ne (h : Name cs) {mark : Char}
    (hmark : ¬ (mark.isAlphanum ∨ mark = '_' ∨ mark = ':')) : ∀ c ∈ cs.head?, c ≠ mark := by
  rintro c hc rfl
  exact hmark (h.chars c (List.mem_of_head? hc))

/-- Letters and digits are no blanks. -/
theorem isBlank_of_isAlphanum (h : c.isAlphanum) : isBlank c = false := by
  simp only [isAlphanum_iff, Char.le_def, UInt32.le_iff_toNat_le] at h
  have hrange : 48 ≤ c.val.toNat ∧ c.val.toNat ≤ 122 := by
    have hupper : 48 ≤ 'A'.val.toNat ∧ 'Z'.val.toNat ≤ 122 := by decide
    have hlower : 48 ≤ 'a'.val.toNat ∧ 'z'.val.toNat ≤ 122 := by decide
    have hdigit : 48 ≤ '0'.val.toNat ∧ '9'.val.toNat ≤ 122 := by decide
    omega
  simp only [isBlank, Bool.or_eq_false_iff, Bool.and_eq_false_iff, decide_eq_false_iff_not,
    beq_eq_false_iff_ne, Char.toNat]
  omega

/-- There is no blank in a name. -/
theorem Name.not_blank (h : Name cs) : ∀ c ∈ cs, isBlank c = false := by
  intro c hc
  rcases h.chars c hc with hletter | rfl | rfl
  · exact isBlank_of_isAlphanum hletter
  · decide
  · decide

/-! ### Marks -/

/-- The mark of the pull that is read and the rest make up the text. -/
theorem takePull_fst_mark (cs : List Char) : (takePull cs).1.mark ++ (takePull cs).2 = cs := by
  unfold takePull
  split <;> rfl

/-- The mark of an active-low pin, if it is read, and the rest make up the text. -/
theorem takeActiveLow_fst_mark (cs : List Char) :
    lowMark (takeActiveLow cs).1 ++ (takeActiveLow cs).2 = cs := by
  unfold takeActiveLow
  split <;> rfl

/-- The mark of an active-low pin is read in front of a text that starts with none. -/
theorem takeActiveLow_mark (activeLow : Bool) (h : ∀ c ∈ cs.head?, c ≠ '!') :
    takeActiveLow (lowMark activeLow ++ cs) = (activeLow, cs) := by
  cases activeLow with
  | true => rfl
  | false =>
    change takeActiveLow cs = (false, cs)
    unfold takeActiveLow
    split
    · exact absurd rfl (h _ rfl)
    · rfl

/-- The mark of a pull is read in front of a text that starts with none. -/
theorem takePull_mark (pull : Pull) (hup : ∀ c ∈ cs.head?, c ≠ '^')
    (hdown : ∀ c ∈ cs.head?, c ≠ '~') : takePull (pull.mark ++ cs) = (pull, cs) := by
  cases pull with
  | up => rfl
  | down => rfl
  | floating =>
    change takePull cs = (.floating, cs)
    unfold takePull
    split
    · exact absurd rfl (hup _ rfl)
    · exact absurd rfl (hdown _ rfl)
    · rfl

/-- A pin with a name is written without blanks at its ends. -/
theorem Name.trimmed_spelling (h : Name pin.name.toList) : Trimmed pin.spelling := by
  refine .of_forall fun c hc => ?_
  rcases List.mem_append.mp hc with hpull | hc
  · generalize pin.pull = pull at hpull
    cases pull <;> simp only [Pull.mark, List.mem_singleton, List.not_mem_nil] at hpull <;>
      subst hpull <;> decide
  · rcases List.mem_append.mp hc with hlow | hname
    · have hmark : c = '!' := by
        unfold lowMark at hlow
        split at hlow
        · exact List.mem_singleton.mp hlow
        · contradiction
      rw [hmark]
      decide
    · exact h.not_blank c hname

/-! ### Reading -/

/-- The text that is taken for the name, behind the marks. -/
theorem ofChars_eq (cs : List Char) :
    ofChars cs =
      let pull := takePull (trim cs)
      let low := takeActiveLow pull.2
      if isName low.2 && size low.2 ≤ nameRoom then .ok ⟨String.ofList low.2, low.1, pull.1⟩
      else .error .invalidPin := rfl

/-- A text that is read as a pin spells that pin. -/
theorem Spells.of_ofChars (h : ofChars cs = .ok pin) : Spells cs pin := by
  rw [ofChars_eq] at h
  dsimp only at h
  split at h
  · next hname =>
    obtain ⟨hname, hroom⟩ := Bool.and_eq_true_iff.mp hname
    obtain ⟨before, after, hbefore, hafter, htext⟩ := exists_trim cs
    obtain rfl := Except.ok.inj h
    refine ⟨⟨?_, ?_⟩, before, after, hbefore, hafter, ?_⟩
    · rw [String.toList_ofList]
      exact (isName_iff _).mp hname
    · rw [String.toList_ofList]
      exact of_decide_eq_true hroom
    · rw [spelling, String.toList_ofList, takeActiveLow_fst_mark, takePull_fst_mark]
      exact htext
  · contradiction

/-- A text that spells a pin is read as that pin. -/
theorem Spells.ofChars_eq_ok (h : Spells cs pin) : ofChars cs = .ok pin := by
  obtain ⟨⟨hname, hroom⟩, before, after, hbefore, hafter, rfl⟩ := h
  have hlow : takeActiveLow (lowMark pin.activeLow ++ pin.name.toList) =
      (pin.activeLow, pin.name.toList) :=
    takeActiveLow_mark _ (hname.first_ne (by decide))
  -- Behind the pull comes the mark of an active-low pin or the name.
  have hbehind {mark : Char} (hmark : ¬ (mark.isAlphanum ∨ mark = '_' ∨ mark = ':'))
      (hother : mark ≠ '!') : ∀ c ∈ (lowMark pin.activeLow ++ pin.name.toList).head?, c ≠ mark := by
    unfold lowMark
    split
    · rintro c hc rfl
      exact hother (Option.some.inj hc).symm
    · exact hname.first_ne hmark
  have hpull : takePull pin.spelling = (pin.pull, lowMark pin.activeLow ++ pin.name.toList) :=
    takePull_mark _ (hbehind (by decide) (by decide)) (hbehind (by decide) (by decide))
  rw [ofChars_eq, trim_eq hname.trimmed_spelling hbefore hafter, hpull]
  dsimp only
  rw [hlow]
  dsimp only
  rw [if_pos (by simp [(isName_iff _).mpr hname, hroom]), String.ofList_toList]

/-- The texts that are read as a pin are those that spell it. -/
theorem ofChars_eq_ok_iff : ofChars cs = .ok pin ↔ Spells cs pin :=
  ⟨Spells.of_ofChars, Spells.ofChars_eq_ok⟩

/-- A text is read as a pin or refused as none. -/
theorem ofChars_ok_or_error (cs : List Char) :
    (∃ pin, ofChars cs = .ok pin) ∨ ofChars cs = .error .invalidPin := by
  rw [ofChars_eq]
  dsimp only
  split
  · exact .inl ⟨_, rfl⟩
  · exact .inr rfl

/-! ### Pairs of pins -/

/-- Two pins with a comma between them. -/
structure SpellsPair (cs : List Char) (pins : Pin × Pin) : Prop where
  comma : cs.count ',' = 1
  text : ∃ first second, cs = first ++ ',' :: second ∧
    Spells first pins.1 ∧ Spells second pins.2

/-- A comma more than behind it is in a text that is split at its first comma. -/
theorem count_split {first second : List Char} (hfirst : ',' ∉ first) :
    (first ++ ',' :: second).count ',' = second.count ',' + 1 := by
  rw [List.count_append, List.count_eq_zero.mpr hfirst, List.count_cons_self, Nat.zero_add]

/-- A text with one comma is read on both sides of it, and no other text is read as a pair. -/
theorem parsePair_cases (spec : String) :
    (spec.toList.count ',' ≠ 1 ∧ parsePair spec = .error .encoderPinCount) ∨
    ∃ first second, spec.toList = first ++ ',' :: second ∧ ',' ∉ first ∧ ',' ∉ second ∧
      parsePair spec = (do
        let a ← ofChars first
        let b ← ofChars second
        pure (a, b)) := by
  unfold parsePair
  dsimp only
  obtain ⟨hnone, hdrop⟩ | ⟨first, second, heq, hfirst, htake, hdrop⟩ := split_cases ',' spec.toList
  · rw [hdrop, List.count_eq_zero.mpr hnone]
    exact .inl ⟨by decide, rfl⟩
  · rw [hdrop, htake]
    dsimp only
    by_cases hsecond : ',' ∈ second
    · refine .inl ⟨?_, if_pos (List.contains_iff_mem.mpr hsecond)⟩
      have hmore := List.count_pos_iff.mpr hsecond
      rw [heq, count_split hfirst]
      omega
    · refine .inr ⟨first, second, heq, hfirst, hsecond, if_neg ?_⟩
      rwa [List.contains_iff_mem]

/-- The texts that are read as two pins are those that spell both. -/
theorem parsePair_eq_ok_iff (spec : String) (pins : Pin × Pin) :
    parsePair spec = .ok pins ↔ SpellsPair spec.toList pins := by
  obtain ⟨hcount, hparse⟩ | ⟨first, second, heq, hfirst, hsecond, hparse⟩ := parsePair_cases spec
  · rw [hparse]
    exact ⟨fun h => by contradiction, fun h => absurd h.comma hcount⟩
  · rw [hparse]
    constructor
    · intro h
      cases ha : ofChars first with
      | error e =>
        rw [ha] at h
        contradiction
      | ok a =>
        cases hb : ofChars second with
        | error e =>
          rw [ha, hb] at h
          contradiction
        | ok b =>
          rw [ha, hb] at h
          obtain rfl := Except.ok.inj h
          refine ⟨?_, first, second, heq, .of_ofChars ha, .of_ofChars hb⟩
          rw [heq, count_split hfirst, List.count_eq_zero.mpr hsecond]
    · rintro ⟨-, left, right, htext, ha, hb⟩
      -- The text has a single comma, so that both splits are at the same place.
      obtain ⟨rfl, -, rfl⟩ :=
        (List.append_cons_inj_of_notMem hfirst hsecond).mp (heq.symm.trans htext)
      rw [ha.ofChars_eq_ok, hb.ofChars_eq_ok]
      rfl

/-- A text that is not read as two pins is refused for its number of pins or for a pin. -/
theorem parsePair_ok_or_error (spec : String) :
    (∃ pins, parsePair spec = .ok pins) ∨
    (spec.toList.count ',' ≠ 1 ∧ parsePair spec = .error .encoderPinCount) ∨
    (spec.toList.count ',' = 1 ∧ parsePair spec = .error .invalidPin) := by
  obtain hcount | ⟨first, second, heq, hfirst, hsecond, hparse⟩ := parsePair_cases spec
  · exact .inr (.inl hcount)
  · have hcount : spec.toList.count ',' = 1 := by
      rw [heq, count_split hfirst, List.count_eq_zero.mpr hsecond]
    rw [hparse]
    obtain ⟨a, ha⟩ | ha := ofChars_ok_or_error first
    · obtain ⟨b, hb⟩ | hb := ofChars_ok_or_error second
      · exact .inl ⟨(a, b), by rw [ha, hb]; rfl⟩
      · exact .inr (.inr ⟨hcount, by rw [ha, hb]; rfl⟩)
    · exact .inr (.inr ⟨hcount, by rw [ha]; rfl⟩)

/-- A text is read as the pin that it spells, and it is refused if it spells none. A pair is read
from a text with one comma that spells a pin on each side; without the one comma it is the number of
pins that is wrong, and otherwise one of the pins. -/
theorem parse_exact (spec : String) :
    (∀ pin, parse spec = .ok pin ↔ Spells spec.toList pin) ∧
    (parse spec = .error .invalidPin ↔ ∀ pin, ¬ Spells spec.toList pin) ∧
    (∀ pins, parsePair spec = .ok pins ↔ SpellsPair spec.toList pins) ∧
    (parsePair spec = .error .encoderPinCount ↔ spec.toList.count ',' ≠ 1) ∧
    (parsePair spec = .error .invalidPin ↔
      spec.toList.count ',' = 1 ∧ ∀ pins, ¬ SpellsPair spec.toList pins) := by
  refine ⟨fun _ => ofChars_eq_ok_iff, ?_, parsePair_eq_ok_iff spec, ?_, ?_⟩
  · obtain ⟨pin, hpin⟩ | hnone := ofChars_ok_or_error spec.toList
    · have hspells := ofChars_eq_ok_iff.mp hpin
      refine iff_of_false (fun h => ?_) (fun h => h pin hspells)
      rw [parse, hpin] at h
      contradiction
    · refine iff_of_true hnone fun pin h => ?_
      rw [h.ofChars_eq_ok] at hnone
      contradiction
  · obtain ⟨pins, hpins⟩ | ⟨hcount, herror⟩ | ⟨hcount, herror⟩ := parsePair_ok_or_error spec
    · have hspells := (parsePair_eq_ok_iff spec pins).mp hpins
      simp [hpins, hspells.comma]
    · exact iff_of_true herror hcount
    · simp [herror, hcount]
  · obtain ⟨pins, hpins⟩ | ⟨hcount, herror⟩ | ⟨hcount, herror⟩ := parsePair_ok_or_error spec
    · have hspells := (parsePair_eq_ok_iff spec pins).mp hpins
      refine iff_of_false (fun h => ?_) (fun h => h.2 pins hspells)
      rw [hpins] at h
      contradiction
    · simp [herror, hcount]
    · refine iff_of_true herror ⟨hcount, fun pins h => ?_⟩
      rw [(parsePair_eq_ok_iff spec pins).mpr h] at herror
      contradiction

example : parsePair " ^!PB1 , ar:PA_12" =
    .ok (⟨"PB1", true, .up⟩, ⟨"ar:PA_12", false, .floating⟩) := by
  decide

end Pin

end PrinterPanel
