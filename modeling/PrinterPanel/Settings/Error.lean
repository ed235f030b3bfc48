/-!
# Rejected settings

The reasons for which a value is refused before the panel uses it.
-/

namespace PrinterPanel

/-- Why a setting is refused. -/
inductive SettingsError where
  /-- A pin is not written as a pin. -/
  | invalidPin
  /-- The encoder is not given exactly two pins. -/
  | encoderPinCount
  /-- An encoder has neither two nor four steps in a detent. -/
  | stepsPerDetent
  /-- The threshold of fast rotation is not positive. -/
  | fastRate
  /-- The voltage window of a button is empty. -/
  | analogRange
  /-- The pull-up resistor is not positive. -/
  | pullupResistor
  /-- The name of a macro lacks its prefix or is too long. -/
  | invalidMacroId
  /-- The label or the command of a macro is blank or too long. -/
  | macroField
  /-- There is no menu text in this language. -/
  | unknownLanguage
  /-- The menu has no room for another macro. -/
  | tooManyMacros
  /-- A temperature range is empty. -/
  | temperatureRange
  /-- The travel of an axis is empty. -/
  | axisRange
  /-- The longest extrusion is negative. -/
  | extrudeLength
  /-- The window of the Z offset is negative. -/
  | zOffsetLimit
  deriving DecidableEq, Repr

namespace SettingsError

/-- The text shown for a refused setting. -/
def message : SettingsError → String
  | invalidPin => "invalid pin specification"
  | encoderPinCount => "encoder_pins must name exactly two pins"
  | stepsPerDetent => "encoder_steps_per_detent must be 2 or 4"
  | fastRate => "encoder_fast_rate must be positive"
  | analogRange => "analog range minimum must be below maximum"
  | pullupResistor => "analog_pullup_resistor must be positive"
  | invalidMacroId => "macro id must start with MACRO"
  | macroField => "macro label and gcode must be non-empty and fit"
  | unknownLanguage => "unknown language"
  | tooManyMacros => "too many macros"
  | temperatureRange => "temperature minimum must be below maximum"
  | axisRange => "axis minimum must be below maximum"
  | extrudeLength => "extrude_max_length must not be negative"
  | zOffsetLimit => "z_offset_limit_um must not be negative"

end SettingsError

end PrinterPanel
