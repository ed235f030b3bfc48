import PrinterPanel.Settings.Error
import PrinterPanel.Text.Blank
import PrinterPanel.Text.Fit

/-!
# Macros

A macro is a printer command that the user adds to the last page of the main menu.
-/

namespace PrinterPanel

/-- A command of the user with its menu row. -/
structure Macro where
  /-- Name of the macro. -/
  id : String
  /-- Text of the menu row. -/
  label : String
  /-- Picture of the menu row. -/
  icon : Nat
  /-- The command for the printer. -/
  gcode : String
  deriving DecidableEq, Repr, Inhabited

namespace Macro

/-- The start of every macro name. -/
def idStart : List Char := ['M', 'A', 'C', 'R', 'O']

/-- Bytes available for a macro name. -/
def idRoom : Nat := 32

/-- Bytes available for a menu label. -/
def labelRoom : Nat := 24

/-- Bytes available for a command. -/
def gcodeRoom : Nat := 128

/-- The picture of a macro that names none. -/
def defaultIcon : Nat := 14

/-- Check and build a macro. Blanks around its texts are dropped. -/
def build (id label : String) (icon : Option Nat) (gcode : String) :
    Except SettingsError Macro := do
  let id := Text.trim id.toList
  let label := Text.trim label.toList
  let gcode := Text.trim gcode.toList
  if !idStart.isPrefixOf id then throw .invalidMacroId
  if label.isEmpty || gcode.isEmpty then throw .macroField
  if idRoom < Text.size id then throw .invalidMacroId
  if labelRoom < Text.size label || gcodeRoom < Text.size gcode then throw .macroField
  pure ⟨String.ofList id, String.ofList label, icon.getD defaultIcon, String.ofList gcode⟩

end Macro

end PrinterPanel
