import PrinterPanel.Settings.Fields
import PrinterPanel.Settings.Overrides
import PrinterPanel.Toml.Document

/-!
# Settings documents

The settings are written as a TOML document with the sections `display`, `encoder`, `button`,
`macro`, `preset`, `limits` and `capabilities`. A section is a table of its keys, or an array of
their values in the order in which they are listed here.
-/

namespace PrinterPanel

open Numeric (Single)
open Toml (Value)

/-- Why a document cannot be used. -/
inductive LoadError where
  /-- It cannot be read as text. -/
  | unreadable
  /-- It breaks the rules of its format or does not have the expected keys and kinds of values. -/
  | malformed
  /-- A value is refused. -/
  | refused (e : SettingsError)
  deriving DecidableEq, Repr

/-- The text shown for a refused value. -/
def LoadError.refusal (e : SettingsError) : String :=
  "invalid config value: " ++ e.message

namespace Document

/-! ### Single values -/

/-- A string. -/
def text? : Value → Option String
  | .text s => some s
  | _ => none

/-- A truth value. -/
def boolean? : Value → Option Bool
  | .boolean b => some b
  | _ => none

/-- An integer within a range. -/
def integer? (b : Bounds) : Value → Option Int
  | .integer i => b.narrow? i
  | _ => none

/-- A natural number within a range. -/
def natural? (b : Bounds) (v : Value) : Option Nat :=
  (integer? b v).map Int.toNat

/-- A number; integers count, too, if 64 bits hold them. -/
def number? : Value → Option Single
  | .integer i => (Bounds.longWord.narrow? i).map Single.ofInt
  | .real (.finite d) => Single.ofDecimal? d
  | .real (.infinite negative) => some (Single.infinity negative)
  | .real .notANumber => some Single.notANumber
  | _ => none

/-- The first two items of an array; further ones are ignored. -/
def pair? {α : Type} (item? : Value → Option α) : Value → Option (α × α)
  | .list (a :: b :: _) => do return (← item? a, ← item? b)
  | _ => none

/-- The two ends of a range. -/
def span? (v : Value) : Option Span :=
  (pair? (integer? .halfWord) v).map fun p => ⟨p.1, p.2⟩

/-! ### Sections -/

/-- The fields of a section with the given keys. A table must not have any other key; an array may
be shorter, and what it has behind the last key is ignored. -/
def fields? (keys : List String) : Value → Option (Fields Value)
  | .table entries =>
    if entries.all (fun e => keys.contains e.1) then some fun k => entries.lookup k else none
  | .list items => some (.ofList keys items)
  | _ => none

/-- Overrides of the screen. -/
def screen? (v : Value) : Option ScreenOverrides := do
  let f ← fields?
    ["language", "dim_timeout_ticks", "brightness", "dim_brightness", "firmware_version",
      "website"] v
  return {
    language := ← f.optional "language" text?
    dimTicks := ← f.optional "dim_timeout_ticks" (natural? .counter)
    brightness := ← f.optional "brightness" (natural? .byte)
    dimBrightness := ← f.optional "dim_brightness" (natural? .byte)
    version := ← f.optional "firmware_version" text?
    website := ← f.optional "website" text? }

/-- Overrides of the encoder. -/
def encoder? (v : Value) : Option EncoderOverrides := do
  let f ← fields?
    ["encoder_pins", "encoder_steps_per_detent", "encoder_fast_rate", "long_press_ms"] v
  return {
    pins := ← f.optional "encoder_pins" text?
    stepsPerDetent := ← f.optional "encoder_steps_per_detent" (natural? .byte)
    fastRate := ← f.optional "encoder_fast_rate" number?
    longPressMs := ← f.optional "long_press_ms" (natural? .counter) }

/-- Overrides of the button. -/
def button? (v : Value) : Option ButtonOverrides := do
  let f ← fields? ["click_pin", "analog_range_click_pin", "analog_pullup_resistor"] v
  return {
    pin := ← f.optional "click_pin" text?
    window := ← f.optional "analog_range_click_pin" (pair? number?)
    pullup := ← f.optional "analog_pullup_resistor" number? }

/-- A macro. As an array it has all of its fields. -/
def macro? (v : Value) : Option MacroEntry := do
  let f ← fields? ["id", "label", "icon", "gcode"] v
  return {
    id := ← f.required "id" text?
    label := ← f.required "label" text?
    icon := ← f.optional "icon" (natural? .byte)
    gcode := ← f.required "gcode" text? }

/-- An array of macros. -/
def macros? : Value → Option (List MacroEntry)
  | .list items => items.mapM macro?
  | _ => none

/-- Overrides of a preset. -/
def preset? (v : Value) : Option PresetOverrides := do
  let f ← fields? ["hotend", "bed", "fan"] v
  return {
    hotend := ← f.optional "hotend" (integer? .halfWord)
    bed := ← f.optional "bed" (integer? .halfWord)
    fan := ← f.optional "fan" (natural? .byte) }

/-- Overrides of both presets. -/
def presets? (v : Value) : Option (PresetOverrides × PresetOverrides) := do
  let f ← fields? ["pla", "tpu"] v
  let pla ← f.optional "pla" preset?
  let tpu ← f.optional "tpu" preset?
  return (pla.getD default, tpu.getD default)

/-- Overrides of the limits. -/
def limits? (v : Value) : Option LimitOverrides := do
  let f ← fields?
    ["x", "y", "z", "hotend", "bed", "extrude_min_temp", "extrude_max_length",
      "z_offset_limit_um"] v
  return {
    x := ← f.optional "x" span?
    y := ← f.optional "y" span?
    z := ← f.optional "z" span?
    hotend := ← f.optional "hotend" span?
    bed := ← f.optional "bed" span?
    minExtrudeTemp := ← f.optional "extrude_min_temp" (integer? .halfWord)
    maxExtrusion := ← f.optional "extrude_max_length" (integer? .halfWord)
    zOffset := ← f.optional "z_offset_limit_um" (integer? .word) }

/-- Overrides of the features. -/
def features? (v : Value) : Option FeatureOverrides := do
  let f ← fields? ["misc_page", "fan", "bed_probe", "prevent_cold_extrusion", "jerk"] v
  return {
    miscPage := ← f.optional "misc_page" boolean?
    fan := ← f.optional "fan" boolean?
    bedProbe := ← f.optional "bed_probe" boolean?
    coldGuard := ← f.optional "prevent_cold_extrusion" boolean?
    jerk := ← f.optional "jerk" boolean? }

end Document

/-- The overrides that a document spells out; `none` if it has other sections or other kinds of
values. -/
def Overrides.ofDocument? (document : Value) : Option Overrides := do
  let f ← Document.fields?
    ["display", "encoder", "button", "macro", "preset", "limits", "capabilities"] document
  let presets ← f.optional "preset" Document.presets?
  return {
    screen := (← f.optional "display" Document.screen?).getD default
    encoder := (← f.optional "encoder" Document.encoder?).getD default
    button := (← f.optional "button" Document.button?).getD default
    macros := (← f.optional "macro" Document.macros?).getD []
    pla := (presets.getD default).1
    tpu := (presets.getD default).2
    limits := (← f.optional "limits" Document.limits?).getD default
    features := (← f.optional "capabilities" Document.features?).getD default }

namespace Settings

/-- Read the settings from the text of a document. -/
def ofText (text : String) : Except LoadError Settings :=
  match (Toml.parse? text).bind Overrides.ofDocument? with
  | none => .error .malformed
  | some o => o.settings.mapError .refused

/-- Read the settings from the contents of a file, or from none if the file cannot be read. -/
def ofFile (contents : Option ByteArray) : Except LoadError Settings :=
  match contents.bind String.fromUTF8? with
  | none => .error .unreadable
  | some text => ofText text

end Settings

end PrinterPanel
