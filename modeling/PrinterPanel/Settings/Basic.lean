import PrinterPanel.Settings.Button
import PrinterPanel.Settings.Encoder
import PrinterPanel.Settings.Language
import PrinterPanel.Settings.Limits
import PrinterPanel.Settings.Macro
import PrinterPanel.Settings.Preset

/-!
# Settings of the panel
-/

namespace PrinterPanel

/-- The optional parts of the printer and of the menu. -/
structure Features where
  /-- The fourth page of the main menu lists the macros and not the machine data. -/
  miscPage : Bool
  /-- The part fan can be controlled. -/
  fan : Bool
  /-- A bed probe is fitted. -/
  bedProbe : Bool
  /-- The extruder is kept from moving while it is cold. -/
  coldGuard : Bool
  /-- The motion menu lists the jerk. -/
  jerk : Bool
  deriving DecidableEq, Repr, Inhabited

/-- The standard features. -/
def Features.standard : Features where
  miscPage := true
  fan := false
  bedProbe := true
  coldGuard := true
  jerk := false

/-- Settings of the backlight and of the machine data page. -/
structure ScreenSettings where
  /-- Idle ticks after which the backlight is dimmed; with 0 it never is. -/
  dimTicks : Nat
  /-- Level of the backlight in use. -/
  brightness : Nat
  /-- Level of the dimmed backlight. -/
  dimBrightness : Nat
  /-- The firmware version that is shown. -/
  version : String
  /-- The contact that is shown. -/
  website : String
  deriving DecidableEq, Repr, Inhabited

namespace ScreenSettings

/-- Bytes available for the version. -/
def versionRoom : Nat := 16

/-- Bytes available for the contact. -/
def websiteRoom : Nat := 32

/-- The standard screen settings. -/
def standard : ScreenSettings where
  dimTicks := 300
  brightness := 40
  dimBrightness := 5
  version := "1.00"
  website := "www.klipper3d.org"

end ScreenSettings

/-- All settings of the panel. -/
structure Settings where
  /-- The menu language. -/
  language : Language
  /-- The rotary encoder. -/
  encoder : EncoderSettings
  /-- The push button. -/
  button : ButtonSettings
  /-- The macros, in the order of the menu. -/
  macros : List Macro
  /-- The material presets. -/
  presets : Presets
  /-- The machine limits. -/
  limits : Limits
  /-- The optional features. -/
  features : Features
  /-- Backlight and machine data. -/
  screen : ScreenSettings
  deriving DecidableEq, Repr, Inhabited

namespace Settings

/-- Most macros that the menu lists. -/
def maxMacros : Nat := 16

/-- The settings of a panel for which nothing is configured. -/
def standard : Settings where
  language := .english
  encoder := .standard
  button := .standard
  macros := []
  presets := .standard
  limits := .standard
  features := .standard
  screen := .standard

/-- Add a macro behind the others. -/
def addMacro (s : Settings) (m : Macro) : Except SettingsError Settings :=
  if s.macros.length < maxMacros then .ok { s with macros := s.macros ++ [m] }
  else .error .tooManyMacros

/-- Check the settings that depend on each other. -/
def check (s : Settings) : Except SettingsError Unit :=
  s.limits.check

end Settings

end PrinterPanel
