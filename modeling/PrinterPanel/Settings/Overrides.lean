import PrinterPanel.Bounds
import PrinterPanel.Settings.Basic

/-!
# Overrides of the standard settings

What a document says about the panel, section by section. Everything may be left out and then
keeps its standard value; `Overrides.settings` checks the rest and builds the settings.
-/

namespace PrinterPanel

open Numeric (Single)

/-! ### Screen -/

/-- Overrides of language, backlight and machine data. -/
structure ScreenOverrides where
  /-- Name of the menu language. -/
  language : Option String
  /-- Idle ticks before dimming. -/
  dimTicks : Option Nat
  /-- Level of the backlight in use. -/
  brightness : Option Nat
  /-- Level of the dimmed backlight. -/
  dimBrightness : Option Nat
  /-- The firmware version; what does not fit is cut off. -/
  version : Option String
  /-- The contact; what does not fit is cut off. -/
  website : Option String
  deriving DecidableEq, Repr, Inhabited

namespace ScreenOverrides

/-- The chosen language. -/
def languageOf (o : ScreenOverrides) : Except SettingsError Language :=
  match o.language with
  | some name => Language.parse name
  | none => .ok Settings.standard.language

/-- The screen settings with the overrides. -/
def screen (o : ScreenOverrides) : ScreenSettings :=
  let d := ScreenSettings.standard
  { dimTicks := o.dimTicks.getD d.dimTicks
    brightness := o.brightness.getD d.brightness
    dimBrightness := o.dimBrightness.getD d.dimBrightness
    version := (o.version.map (Text.cutString ScreenSettings.versionRoom)).getD d.version
    website := (o.website.map (Text.cutString ScreenSettings.websiteRoom)).getD d.website }

end ScreenOverrides

/-! ### Encoder and button -/

/-- Overrides of the rotary encoder. -/
structure EncoderOverrides where
  /-- Both pins, with a comma between them. -/
  pins : Option String
  /-- Phase transitions from one detent to the next. -/
  stepsPerDetent : Option Nat
  /-- Time between detents below which rotation is fast (s). -/
  fastRate : Option Single
  /-- Time for a long click (ms). -/
  longPressMs : Option Nat
  deriving DecidableEq, Repr, Inhabited

namespace EncoderOverrides

/-- Seconds in whole milliseconds: at least one for every positive time, and 0 for any other. -/
def milliseconds (seconds : Single) : Nat :=
  if seconds.isPositive then max 1 ((seconds.timesNat 1000).roundToNat Bounds.counterLimit)
  else 0

/-- Check and build the encoder settings with the overrides. -/
def encoder (o : EncoderOverrides) : Except SettingsError EncoderSettings := do
  let d := EncoderSettings.standard
  let e ← EncoderSettings.build (o.pins.getD EncoderSettings.defaultPins)
    (o.stepsPerDetent.getD d.stepsPerDetent) ((o.fastRate.map milliseconds).getD d.fastRateMs)
  return { e with longPressMs := o.longPressMs.getD d.longPressMs }

end EncoderOverrides

/-- Overrides of the push button. -/
structure ButtonOverrides where
  /-- Its pin. -/
  pin : Option String
  /-- Both ends of its voltage window. -/
  window : Option (Single × Single)
  /-- The resistor of the analog divider (ohm). -/
  pullup : Option Single
  deriving DecidableEq, Repr, Inhabited

namespace ButtonOverrides

/-- A resistor in whole ohms, and 0 for what is not positive. -/
def wholeOhms (ohms : Single) : Nat :=
  if ohms.isPositive then ohms.roundToNat Bounds.counterLimit else 0

/-- Check and build the button settings with the overrides. -/
def button (o : ButtonOverrides) : Except SettingsError ButtonSettings := do
  let d := ButtonSettings.standard
  let window ←
    match o.window with
    | some (low, high) => some <$> VoltageWindow.build low high
    | none => pure none
  ButtonSettings.build (o.pin.getD ButtonSettings.defaultPin) window
    ((o.pullup.map wholeOhms).getD d.pullupOhms)

end ButtonOverrides

/-! ### Macros and presets -/

/-- A macro as it is written. -/
structure MacroEntry where
  /-- Name of the macro. -/
  id : String
  /-- Text of the menu row. -/
  label : String
  /-- Picture of the menu row. -/
  icon : Option Nat
  /-- The command for the printer. -/
  gcode : String
  deriving DecidableEq, Repr, Inhabited

/-- Check a written macro and add it to the settings. -/
def Settings.addEntry (s : Settings) (e : MacroEntry) : Except SettingsError Settings := do
  s.addMacro (← Macro.build e.id e.label e.icon e.gcode)

/-- Overrides of a material preset. -/
structure PresetOverrides where
  /-- Target of the hotend (°C). -/
  hotend : Option Int
  /-- Target of the bed (°C). -/
  bed : Option Int
  /-- Speed of the part fan; more than all of it counts as all of it. -/
  fan : Option Nat
  deriving DecidableEq, Repr, Inhabited

namespace PresetOverrides

/-- Full speed of a fan (percent). -/
def fullFan : Nat := 100

/-- A preset with the overrides. -/
def apply (o : PresetOverrides) (p : Preset) : Preset :=
  { p with
    hotend := o.hotend.getD p.hotend
    bed := o.bed.getD p.bed
    fan := (o.fan.map (min fullFan)).getD p.fan }

end PresetOverrides

/-! ### Machine -/

/-- Overrides of the machine limits. -/
structure LimitOverrides where
  /-- Travel of the X axis (mm). -/
  x : Option Span
  /-- Travel of the Y axis (mm). -/
  y : Option Span
  /-- Travel of the Z axis (mm). -/
  z : Option Span
  /-- Targets of the hotend (°C). -/
  hotend : Option Span
  /-- Targets of the bed (°C). -/
  bed : Option Span
  /-- Least temperature for extrusion (°C). -/
  minExtrudeTemp : Option Int
  /-- The longest single extrusion (mm). -/
  maxExtrusion : Option Int
  /-- Window of the Z offset (µm). -/
  zOffset : Option Int
  deriving DecidableEq, Repr, Inhabited

/-- The limits with the overrides, not yet checked. -/
def LimitOverrides.limits (o : LimitOverrides) : Limits :=
  let d := Limits.standard
  { x := o.x.getD d.x
    y := o.y.getD d.y
    z := o.z.getD d.z
    hotend := o.hotend.getD d.hotend
    bed := o.bed.getD d.bed
    minExtrudeTemp := o.minExtrudeTemp.getD d.minExtrudeTemp
    maxExtrusion := o.maxExtrusion.getD d.maxExtrusion
    zOffset := o.zOffset.getD d.zOffset }

/-- Overrides of the features. -/
structure FeatureOverrides where
  /-- The fourth page of the main menu lists the macros. -/
  miscPage : Option Bool
  /-- The part fan can be controlled. -/
  fan : Option Bool
  /-- A bed probe is fitted. -/
  bedProbe : Option Bool
  /-- The extruder is kept from moving while it is cold. -/
  coldGuard : Option Bool
  /-- The motion menu lists the jerk. -/
  jerk : Option Bool
  deriving DecidableEq, Repr, Inhabited

/-- The features with the overrides. -/
def FeatureOverrides.features (o : FeatureOverrides) : Features :=
  let d := Features.standard
  { miscPage := o.miscPage.getD d.miscPage
    fan := o.fan.getD d.fan
    bedProbe := o.bedProbe.getD d.bedProbe
    coldGuard := o.coldGuard.getD d.coldGuard
    jerk := o.jerk.getD d.jerk }

/-! ### All together -/

/-- Everything that a document says about the panel. -/
structure Overrides where
  /-- Language, backlight and machine data. -/
  screen : ScreenOverrides
  /-- The rotary encoder. -/
  encoder : EncoderOverrides
  /-- The push button. -/
  button : ButtonOverrides
  /-- The macros, in order. -/
  macros : List MacroEntry
  /-- The preset for PLA. -/
  pla : PresetOverrides
  /-- The preset for TPU. -/
  tpu : PresetOverrides
  /-- The machine limits. -/
  limits : LimitOverrides
  /-- The optional features. -/
  features : FeatureOverrides
  deriving DecidableEq, Repr, Inhabited

namespace Overrides

/-- Build the settings with the overrides. They are checked in the order language, encoder, button,
macros, limits, and the first that is refused is reported. -/
def settings (o : Overrides) : Except SettingsError Settings := do
  let language ← o.screen.languageOf
  let encoder ← o.encoder.encoder
  let button ← o.button.button
  let start : Settings :=
    { Settings.standard with
      language := language, screen := o.screen.screen, encoder := encoder, button := button }
  let s ← o.macros.foldlM Settings.addEntry start
  let s : Settings :=
    { s with
      presets := ⟨o.pla.apply s.presets.pla, o.tpu.apply s.presets.tpu⟩
      limits := o.limits.limits
      features := o.features.features }
  s.check
  return s

end Overrides

end PrinterPanel
