import PrinterPanel.Toml.Quoted
import PrinterPanel.Toml.Scalar
import PrinterPanel.Toml.Tree

/-!
# Reading a document

The grammar of values, lines and headers. A document breaks the rules of the format if it does not
follow the grammar, or if its sections cannot be put into one table.
-/

namespace PrinterPanel.Toml

open Text (Reader)
open Text.Reader (startsWith accept expect takeWhile)

/-! ### Blanks and comments -/

/-- Skip the blanks of a line. -/
def skipSpaces : Reader Unit := do
  let _ ← takeWhile isSpace

/-- Skip a comment, if there is one here. A carriage return belongs to the end of the line. -/
def skipComment : Reader Unit := do
  if ← accept '#' then
    let cs ← takeWhile fun c => c != '\n' && c != '\r'
    if !cs.all isPlain then failure

/-- Skip the end of a line; whether there was one. -/
def skipLineEnd : Reader Bool := do
  match behindLineEnd (← get) with
  | some rest => set rest; return true
  | none => return false

/-- Skip blanks, comments and line ends; `fuel` bounds their number. -/
def skipLines : Nat → Reader Unit
  | 0 => failure
  | fuel + 1 => do
    skipSpaces
    skipComment
    if ← skipLineEnd then skipLines fuel

/-- Skip to the next line; nothing but blanks and a comment may stand in between. -/
def endLine : Reader Unit := do
  skipSpaces
  skipComment
  if !(← skipLineEnd) && !(← get).isEmpty then failure

/-! ### Keys -/

/-- The characters of a key without quotes. -/
def isKeyChar (c : Char) : Bool :=
  c.isAlphanum || c == '_' || c == '-'

/-- One key of a path. -/
def key : Reader String := do
  if (← startsWith '"') || (← startsWith apostrophe) then quotedLine
  else
    let cs ← takeWhile isKeyChar
    if cs.isEmpty then failure
    return String.ofList cs

/-- Keys with points between them, at most so many. -/
def keysUpTo : Nat → Reader (List String)
  | 0 => failure
  | limit + 1 => do
    skipSpaces
    let k ← key
    skipSpaces
    if ← accept '.' then return k :: (← keysUpTo limit)
    return [k]

/-- A document has at most so many keys in a path, and arrays and tables in braces are nested in
each other at most so deep. -/
def depthLimit : Nat := 80

/-- The keys that lead to a value or a table. -/
def keyPath : Reader (List String) :=
  keysUpTo depthLimit

/-! ### Values without quotes and brackets -/

/-- The characters besides blanks that end a value without quotes and brackets. -/
def enders : List Char := "\r\n=,#[]\x7b\x7d".toList

/-- Whether a character starts a value without quotes and brackets, or belongs to one that has
started. A quote belongs to it, but does not start it. -/
def isBare (hasStarted : Bool) (c : Char) : Bool :=
  if c == '"' || c == apostrophe then hasStarted else !isSpace c && !enders.contains c

/-- Split a text behind the value without quotes and brackets that stands at its front. Blanks
belong to such a value if something follows that could start another one. -/
def splitBare : List Char → List Char × List Char
  | [] => ([], [])
  | c :: rest =>
    if isBare true c || (isSpace c && (rest.dropWhile isSpace).head?.any (isBare false)) then
      let (cs, after) := splitBare rest
      (c :: cs, after)
    else ([], c :: rest)

/-- The text of a value without quotes and brackets. -/
def bareText : Reader (List Char) := do
  let (cs, rest) := splitBare (← get)
  set rest
  return cs

/-! ### Values -/

/-- The depth that is left within an array or a table in braces. -/
def inside : Nat → Reader Nat
  | 0 => failure
  | depth + 1 => return depth

mutual

/-- A value in which arrays and tables in braces are nested at most `depth` deep; `fuel` bounds the
steps. -/
def value : (fuel depth : Nat) → Reader Value
  | 0, _ => failure
  | fuel + 1, depth => do
    if ← accept '[' then return .list (← items fuel (← inside depth))
    if ← accept '\x7b' then
      let entries ← inlineEntries fuel (← inside depth)
      return (← Tree.empty.addEntries entries).toValue
    if (← startsWith '"') || (← startsWith apostrophe) then return .text (← quoted)
    scalar? (← bareText)

/-- The rest of an array; a comma may stand behind its last item. -/
def items : (fuel depth : Nat) → Reader (List Value)
  | 0, _ => failure
  | fuel + 1, depth => do
    skipLines (fuel + 1)
    if ← accept ']' then return []
    let v ← value fuel depth
    skipLines (fuel + 1)
    if ← accept ',' then return v :: (← items fuel depth)
    expect ']'
    return [v]

/-- The rest of a table in braces. Its entries may run over several lines, and a comma may stand
behind the last one. -/
def inlineEntries : (fuel depth : Nat) → Reader (List Entry)
  | 0, _ => failure
  | fuel + 1, depth => do
    skipLines (fuel + 1)
    if ← accept '\x7d' then return []
    let path ← keyPath
    skipLines (fuel + 1)
    expect '='
    skipLines (fuel + 1)
    let v ← value fuel depth
    skipLines (fuel + 1)
    if ← accept ',' then return ⟨path, v⟩ :: (← inlineEntries fuel depth)
    expect '\x7d'
    return [⟨path, v⟩]

end

/-! ### Documents -/

/-- A line that puts a value at a path. -/
def entry : Reader Entry := do
  let fuel := 2 * (← get).length + 2
  let path ← keyPath
  expect '='
  skipSpaces
  let v ← value fuel depthLimit
  endLine
  return ⟨path, v⟩

/-- The lines up to the next header or the end of the document. -/
def entries : Nat → Reader (List Entry)
  | 0 => failure
  | fuel + 1 => do
    skipLines (fuel + 1)
    if (← get).isEmpty || (← startsWith '[') then return []
    return (← entry) :: (← entries fuel)

/-- The header of a section: its path, and whether it is an element of an array. -/
def header : Reader (List String × Bool) := do
  expect '['
  let isElement ← accept '['
  let path ← keyPath
  expect ']'
  if isElement then expect ']'
  endLine
  return (path, isElement)

/-- The sections that have a header. -/
def sections : Nat → Reader (List Section)
  | 0 => failure
  | fuel + 1 => do
    if (← get).isEmpty then return []
    let (path, isElement) ← header
    let lines ← entries (fuel + 1)
    return ⟨path, isElement, lines⟩ :: (← sections fuel)

/-- All sections of a document. -/
def allSections : Reader (List Section) := do
  let fuel := (← get).length + 1
  let lines ← entries fuel
  return ⟨[], false, lines⟩ :: (← sections fuel)

/-- The mark that may stand in front of a text to tell its byte order. -/
def byteOrderMark : Char := '\ufeff'

/-- The table that a document stands for; `none` if it breaks the rules of the format. -/
def parse? (text : String) : Option Value := do
  let cs := text.toList
  let body := if cs.head? = some byteOrderMark then cs.tail else cs
  let all ← Reader.run? allSections body
  return (← all.foldlM Tree.addSection Tree.empty).toValue

end PrinterPanel.Toml
