import PrinterPanel.Text.Digits
import PrinterPanel.Text.Reader

/-!
# Quoted strings

A string stands in double quotes, with escapes, or in single quotes, without. Three quotes on
either side let it run over several lines.
-/

namespace PrinterPanel.Toml

open Text (Reader charOfHex?)
open Text.Reader (next takeExactly)

/-- Characters that may stand in a string or a comment: tabs and all that are not for control. -/
def isPlain (c : Char) : Bool :=
  c == '\t' || (' ' ≤ c && c != '\x7f')

/-- Blanks within a line. -/
def isSpace (c : Char) : Bool :=
  c == ' ' || c == '\t'

/-- The single quote. -/
def apostrophe : Char := '\x27'

/-- The character with the code that the next `width` characters spell. -/
def coded (width : Nat) : Reader Char := do
  charOfHex? (← takeExactly width)

/-- An escaped character; the backslash has been taken. -/
def escaped : Reader Char := do
  match ← next with
  | 'b' => return '\x08'
  | 't' => return '\t'
  | 'n' => return '\n'
  | 'f' => return '\x0c'
  | 'r' => return '\r'
  | 'e' => return '\x1b'
  | '"' => return '"'
  | '\\' => return '\\'
  | 'x' => coded 2
  | 'u' => coded 4
  | 'U' => coded 8
  | _ => failure

/-- The rest of a string in double quotes; `fuel` bounds its length. -/
def basicRest : Nat → Reader (List Char)
  | 0 => failure
  | fuel + 1 => do
    match ← next with
    | '"' => return []
    | '\\' => return (← escaped) :: (← basicRest fuel)
    | c => if isPlain c then return c :: (← basicRest fuel) else failure

/-- The rest of a string in single quotes. -/
def literalRest : Reader (List Char) := do
  let cs ← Reader.takeWhile (· != apostrophe)
  if !cs.all isPlain then failure
  Reader.expect apostrophe
  return cs

/-- The text behind the end of a line, if it starts with one. -/
def behindLineEnd : List Char → Option (List Char)
  | '\n' :: rest => some rest
  | '\r' :: '\n' :: rest => some rest
  | _ => none

/-- The text behind blanks and line ends. -/
def behindLines : List Char → List Char
  | '\r' :: '\n' :: rest => behindLines rest
  | c :: rest => if isSpace c || c == '\n' then behindLines rest else c :: rest
  | [] => []

/-- The text behind three quotes, if it starts with them. -/
def behindTriple (quote : Char) : List Char → Option (List Char)
  | a :: b :: c :: rest => if a = quote ∧ b = quote ∧ c = quote then some rest else none
  | _ => none

/-- The quotes of a string that stand directly before its closing quotes: at most two. -/
def lastQuotes (quote : Char) : Reader (List Char) := do
  let text ← get
  let quotes := (text.takeWhile (· == quote)).take 2
  set (text.drop quotes.length)
  return quotes

/-- The rest of a string of several lines in double quotes. A backslash at the end of a line leaves
out all blanks and line ends behind it. -/
def basicLines : Nat → Reader (List Char)
  | 0 => failure
  | fuel + 1 => do
    let text ← get
    match behindTriple '"' text with
    | some rest =>
      set rest
      lastQuotes '"'
    | none =>
      match text with
      | '\\' :: rest =>
        if (behindLineEnd (rest.dropWhile isSpace)).isSome then
          set (behindLines rest)
          basicLines fuel
        else
          set rest
          return (← escaped) :: (← basicLines fuel)
      | '\r' :: '\n' :: rest =>
        set rest
        return '\r' :: '\n' :: (← basicLines fuel)
      | c :: rest =>
        if !isPlain c && c != '\n' then failure
        set rest
        return c :: (← basicLines fuel)
      | [] => failure

/-- The rest of a string of several lines in single quotes. -/
def literalLines : Nat → Reader (List Char)
  | 0 => failure
  | fuel + 1 => do
    let text ← get
    match behindTriple apostrophe text with
    | some rest =>
      set rest
      lastQuotes apostrophe
    | none =>
      match text with
      | '\r' :: '\n' :: rest =>
        set rest
        return '\r' :: '\n' :: (← literalLines fuel)
      | c :: rest =>
        if !isPlain c && c != '\n' then failure
        set rest
        return c :: (← literalLines fuel)
      | [] => failure

/-- A string on one line, with the text at its opening quote. -/
def quotedLine : Reader String := do
  let fuel := (← get).length
  if ← Reader.accept '"' then return String.ofList (← basicRest fuel)
  Reader.expect apostrophe
  return String.ofList (← literalRest)

/-- A string, with the text at its opening quote. A line end behind three opening quotes is left
out. -/
def quoted : Reader String := do
  let text ← get
  let afterFirstEnd (rest : List Char) : List Char := (behindLineEnd rest).getD rest
  match behindTriple '"' text, behindTriple apostrophe text with
  | some rest, _ =>
    set (afterFirstEnd rest)
    return String.ofList (← basicLines text.length)
  | none, some rest =>
    set (afterFirstEnd rest)
    return String.ofList (← literalLines text.length)
  | none, none => quotedLine

end PrinterPanel.Toml
