/-!
# Text in a bounded space

Names, messages and paths live in buffers of fixed size. Space is counted in the bytes of UTF-8,
and a text that is too long is either refused or cut after the last character that still fits.
-/

namespace PrinterPanel.Text

/-- Bytes that a text takes in UTF-8. -/
def size : List Char → Nat
  | [] => 0
  | c :: cs => c.utf8Size + size cs

/-- An empty text takes no room. -/
@[simp] theorem size_nil : size [] = 0 := rfl

/-- A text takes the room of its characters. -/
@[simp] theorem size_cons (c : Char) (cs : List Char) : size (c :: cs) = c.utf8Size + size cs :=
  rfl

/-- Two texts take together what they take one by one. -/
@[simp] theorem size_append (a b : List Char) : size (a ++ b) = size a + size b := by
  induction a with
  | nil => simp
  | cons c cs ih => simp [ih, Nat.add_assoc]

/-- Whole characters from the start of a text while they stay within `room` bytes. -/
def cut : Nat → List Char → List Char
  | _, [] => []
  | room, c :: cs => if c.utf8Size ≤ room then c :: cut (room - c.utf8Size) cs else []

/-- A text that is cut stays within its room. -/
theorem size_cut_le (room : Nat) (cs : List Char) : size (cut room cs) ≤ room := by
  induction cs generalizing room with
  | nil => simp [cut]
  | cons c cs ih =>
    unfold cut
    split
    · have := ih (room - c.utf8Size)
      simp only [size_cons]
      omega
    · simp

/-- A text that fits is not cut. -/
theorem cut_eq_self {room : Nat} {cs : List Char} (h : size cs ≤ room) : cut room cs = cs := by
  induction cs generalizing room with
  | nil => rfl
  | cons c cs ih =>
    simp only [size_cons] at h
    rw [cut, if_pos (by omega), ih (by omega)]

/-- What is cut off is the end of the text. -/
theorem cut_isPrefix (room : Nat) (cs : List Char) : cut room cs <+: cs := by
  induction cs generalizing room with
  | nil => exact List.nil_prefix
  | cons c cs ih =>
    unfold cut
    split
    · exact List.cons_prefix_cons.mpr ⟨rfl, ih _⟩
    · exact List.nil_prefix

/-- Whether a string fits `room` bytes. -/
def fits (room : Nat) (s : String) : Bool :=
  size s.toList ≤ room

/-- A string cut to `room` bytes. -/
def cutString (room : Nat) (s : String) : String :=
  String.ofList (cut room s.toList)

/-- A string, or nothing at all if it does not fit `room` bytes. -/
def orEmpty (room : Nat) (s : String) : String :=
  if fits room s then s else ""

end PrinterPanel.Text
