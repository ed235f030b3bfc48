import PrinterPanel.Json.Write
import PrinterPanel.Settings.Basic
import PrinterPanel.Settings.Stored.Basic

/-!
# Stored presets, limits, features and screen settings
-/

namespace PrinterPanel.Stored

open Json

/-! ### Presets -/

/-- Write a preset. -/
def ofPreset (p : Preset) : String :=
  Write.object [
    ("name", Write.text p.name),
    ("hotend_c", Write.integer p.hotend),
    ("bed_c", Write.integer p.bed),
    ("fan_percent", Write.natural p.fan)]

/-- Read a preset. -/
def preset? (v : Value) : Option Preset := do
  let f ← fields? ["name", "hotend_c", "bed_c", "fan_percent"] v
  return {
    name := ← f.required "name" (text? Preset.nameRoom)
    hotend := ← f.required "hotend_c" (integer? .halfWord)
    bed := ← f.required "bed_c" (integer? .halfWord)
    fan := ← f.required "fan_percent" (natural? .byte) }

/-- Write both presets. -/
def ofPresets (p : Presets) : String :=
  Write.object [("pla", ofPreset p.pla), ("tpu", ofPreset p.tpu)]

/-- Read both presets. -/
def presets? (v : Value) : Option Presets := do
  let f ← fields? ["pla", "tpu"] v
  return ⟨← f.required "pla" preset?, ← f.required "tpu" preset?⟩

/-! ### Limits and features -/

/-- Write a range in a unit. -/
def ofSpan (unit : String) (s : Span) : String :=
  Write.object [
    ("min_" ++ unit, Write.integer s.min), ("max_" ++ unit, Write.integer s.max)]

/-- Read a range in a unit. -/
def span? (unit : String) (v : Value) : Option Span := do
  let f ← fields? ["min_" ++ unit, "max_" ++ unit] v
  return {
    min := ← f.required ("min_" ++ unit) (integer? .halfWord)
    max := ← f.required ("max_" ++ unit) (integer? .halfWord) }

/-- The unit of travel. -/
def travelUnit : String := "mm"

/-- The unit of temperatures. -/
def heatUnit : String := "c"

/-- Write the machine limits. -/
def ofLimits (l : Limits) : String :=
  Write.object [
    ("x", ofSpan travelUnit l.x),
    ("y", ofSpan travelUnit l.y),
    ("z", ofSpan travelUnit l.z),
    ("hotend", ofSpan heatUnit l.hotend),
    ("bed", ofSpan heatUnit l.bed),
    ("extrude_min_temp_c", Write.integer l.minExtrudeTemp),
    ("extrude_max_length_mm", Write.integer l.maxExtrusion),
    ("z_offset_limit_um", Write.integer l.zOffset)]

/-- Read machine limits. -/
def limits? (v : Value) : Option Limits := do
  let f ← fields?
    ["x", "y", "z", "hotend", "bed", "extrude_min_temp_c", "extrude_max_length_mm",
      "z_offset_limit_um"] v
  return {
    x := ← f.required "x" (span? travelUnit)
    y := ← f.required "y" (span? travelUnit)
    z := ← f.required "z" (span? travelUnit)
    hotend := ← f.required "hotend" (span? heatUnit)
    bed := ← f.required "bed" (span? heatUnit)
    minExtrudeTemp := ← f.required "extrude_min_temp_c" (integer? .halfWord)
    maxExtrusion := ← f.required "extrude_max_length_mm" (integer? .halfWord)
    zOffset := ← f.required "z_offset_limit_um" (integer? .word) }

/-- Write the features. -/
def ofFeatures (f : Features) : String :=
  Write.object [
    ("misc_page", Write.boolean f.miscPage),
    ("fan", Write.boolean f.fan),
    ("bed_probe", Write.boolean f.bedProbe),
    ("prevent_cold_extrusion", Write.boolean f.coldGuard),
    ("jerk", Write.boolean f.jerk)]

/-- Read features. -/
def features? (v : Value) : Option Features := do
  let f ← fields? ["misc_page", "fan", "bed_probe", "prevent_cold_extrusion", "jerk"] v
  return {
    miscPage := ← f.required "misc_page" boolean?
    fan := ← f.required "fan" boolean?
    bedProbe := ← f.required "bed_probe" boolean?
    coldGuard := ← f.required "prevent_cold_extrusion" boolean?
    jerk := ← f.required "jerk" boolean? }

/-! ### Screen -/

/-- Write the screen settings. -/
def ofScreen (s : ScreenSettings) : String :=
  Write.object [
    ("dim_timeout_ticks", Write.natural s.dimTicks),
    ("brightness", Write.natural s.brightness),
    ("dim_brightness", Write.natural s.dimBrightness),
    ("firmware_version", Write.text s.version),
    ("website", Write.text s.website)]

/-- Read screen settings. -/
def screen? (v : Value) : Option ScreenSettings := do
  let f ← fields?
    ["dim_timeout_ticks", "brightness", "dim_brightness", "firmware_version", "website"] v
  return {
    dimTicks := ← f.required "dim_timeout_ticks" (natural? .counter)
    brightness := ← f.required "brightness" (natural? .byte)
    dimBrightness := ← f.required "dim_brightness" (natural? .byte)
    version := ← f.required "firmware_version" (text? ScreenSettings.versionRoom)
    website := ← f.required "website" (text? ScreenSettings.websiteRoom) }

end PrinterPanel.Stored
