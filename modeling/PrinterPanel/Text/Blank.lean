/-!
# Blank characters and words

The blank characters are those of Unicode's `White_Space` property. Configuration values are
trimmed of them, and a message is broken into words at them.
-/

namespace PrinterPanel.Text

/-- The characters of the `White_Space` property. -/
def isBlank (c : Char) : Bool :=
  let n := c.toNat
  (9 ≤ n && n ≤ 13) || n == 0x20 || n == 0x85 || n == 0xA0 || n == 0x1680 ||
    (0x2000 ≤ n && n ≤ 0x200A) || n == 0x2028 || n == 0x2029 || n == 0x202F || n == 0x205F ||
    n == 0x3000

/-- Text without the blanks at its start and at its end. -/
def trim (cs : List Char) : List Char :=
  ((cs.dropWhile isBlank).reverse.dropWhile isBlank).reverse

/-- A string without the blanks at its start and at its end. -/
def trimmed (s : String) : String :=
  String.ofList (trim s.toList)

/-- Whether a text shows nothing at all. -/
def allBlank (cs : List Char) : Bool :=
  cs.all isBlank

/-- One step of `words` from the right: the word being read and the words after it. -/
def addChar (c : Char) (acc : List Char × List (List Char)) : List Char × List (List Char) :=
  if isBlank c then ([], if acc.1.isEmpty then acc.2 else acc.1 :: acc.2)
  else (c :: acc.1, acc.2)

/-- The maximal runs of non-blank characters, in order. -/
def words (cs : List Char) : List (List Char) :=
  let acc := cs.foldr addChar ([], [])
  if acc.1.isEmpty then acc.2 else acc.1 :: acc.2

/-- An empty text has no words. -/
@[simp] theorem words_nil : words [] = [] := rfl

end PrinterPanel.Text
