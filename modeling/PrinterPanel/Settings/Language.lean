import PrinterPanel.Settings.Error
import PrinterPanel.Text.Blank

/-!
# Menu language

The menu text of each language is stored in the panel as pictures, in an icon library of its own.
-/

namespace PrinterPanel

/-- The languages with menu text. -/
inductive Language where
  | chinese | english | german | russian | french | turkish | spanish | italian | portuguese
  | japanese | korean
  deriving DecidableEq, Repr, Inhabited

namespace Language

/-- Every language, each once. -/
def all : List Language :=
  [chinese, english, german, russian, french, turkish, spanish, italian, portuguese, japanese,
    korean]

/-- The name by which a language is chosen. -/
def name : Language → String
  | chinese => "chinese"
  | english => "english"
  | german => "german"
  | russian => "russian"
  | french => "french"
  | turkish => "turkish"
  | spanish => "spanish"
  | italian => "italian"
  | portuguese => "portuguese"
  | japanese => "japanese"
  | korean => "korean"

/-- The icon library with the text of a language. -/
def iconLibrary : Language → Nat
  | chinese => 2
  | english => 4
  | german => 6
  | russian => 9
  | french => 12
  | turkish => 15
  | spanish => 17
  | italian => 19
  | portuguese => 21
  | japanese => 23
  | korean => 25

/-- The language with exactly this name. -/
def ofName? (name : String) : Option Language :=
  all.find? (·.name == name)

/-- Choose a language by its name; blanks around it are ignored. -/
def parse (name : String) : Except SettingsError Language :=
  match ofName? (Text.trimmed name) with
  | some l => .ok l
  | none => .error .unknownLanguage

/-- Every language is found by its name. -/
theorem ofName?_name (l : Language) : ofName? l.name = some l := by
  cases l <;> decide

end Language

end PrinterPanel
