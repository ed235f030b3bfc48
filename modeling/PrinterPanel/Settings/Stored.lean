import PrinterPanel.Settings.Stored.Machine
import PrinterPanel.Settings.Stored.Wiring

/-!
# Stored settings

Settings are stored as JSON objects with all of their fields in a fixed order. When they are read
back, keys that are not known are ignored, an array of all fields in order stands for the object,
and every text has to fit its room. Beyond that the values are not checked.
-/

namespace PrinterPanel

open Json

namespace Stored

/-- Write a macro. -/
def ofMacro (m : Macro) : String :=
  Write.object [
    ("id", Write.text m.id),
    ("label", Write.text m.label),
    ("icon", Write.natural m.icon),
    ("gcode", Write.text m.gcode)]

/-- Read a macro. -/
def macro? (v : Value) : Option Macro := do
  let f ← fields? ["id", "label", "icon", "gcode"] v
  return {
    id := ← f.required "id" (text? Macro.idRoom)
    label := ← f.required "label" (text? Macro.labelRoom)
    icon := ← f.required "icon" (natural? .byte)
    gcode := ← f.required "gcode" (text? Macro.gcodeRoom) }

/-- Read the macros; there must not be more than the menu can list. -/
def macros? : Value → Option (List Macro)
  | .list items => if items.length ≤ Settings.maxMacros then items.mapM macro? else none
  | _ => none

/-- Read settings. -/
def settings? (v : Value) : Option Settings := do
  let f ← fields?
    ["language", "encoder", "button", "macros", "presets", "limits", "capabilities", "display"] v
  return {
    language := ← f.required "language" (choice? Language.ofName?)
    encoder := ← f.required "encoder" encoder?
    button := ← f.required "button" button?
    macros := ← f.required "macros" macros?
    presets := ← f.required "presets" presets?
    limits := ← f.required "limits" limits?
    features := ← f.required "capabilities" features?
    screen := ← f.required "display" screen? }

end Stored

namespace Settings

/-- Store the settings. -/
def store (s : Settings) : String :=
  Write.object [
    ("language", Write.text s.language.name),
    ("encoder", Stored.ofEncoder s.encoder),
    ("button", Stored.ofButton s.button),
    ("macros", Write.list (s.macros.map Stored.ofMacro)),
    ("presets", Stored.ofPresets s.presets),
    ("limits", Stored.ofLimits s.limits),
    ("capabilities", Stored.ofFeatures s.features),
    ("display", Stored.ofScreen s.screen)]

/-- The settings that were stored as a text, if it is one. -/
def ofStored? (text : String) : Option Settings :=
  (Json.parse? text).bind Stored.settings?

end Settings

end PrinterPanel
