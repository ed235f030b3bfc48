import PrinterPanel.Printer.Status
import PrinterPanel.Settings.Preset
import PrinterPanel.Text.Fit

/-!
# Printer commands

What the panel asks of the printer, and how the printer may decline.
-/

namespace PrinterPanel

/-- A request to the printer. -/
inductive Command where
  /-- Set the hotend to a temperature (°C). -/
  | hotendTarget (celsius : Int)
  /-- Set the bed to a temperature (°C). -/
  | bedTarget (celsius : Int)
  /-- Set the part fan (percent). -/
  | fanSpeed (percent : Nat)
  /-- Set the speed factor (percent). -/
  | feedrate (percent : Int)
  /-- Move one axis to a position (µm) at a speed (mm/min). -/
  | moveAxis (axis : Axis) (um : Int) (feedrate : Nat)
  /-- Take the present position of the extruder as its zero. -/
  | resetExtruder
  /-- Release the motors. -/
  | disableSteppers
  /-- Home all axes. -/
  | homeAll
  /-- Use a Z offset (µm). -/
  | zOffset (um : Int)
  /-- Print a file. -/
  | startPrint (path : String)
  /-- Pause the print. -/
  | pause
  /-- Go on with the print. -/
  | resume
  /-- Give up the print. -/
  | cancel
  /-- Run a command of the user. -/
  | runMacro (gcode : String)
  /-- Store the material presets. -/
  | savePresets (presets : Presets)
  /-- Move the nozzle while probing (µm). -/
  | probeAdjust (um : Int)
  /-- Take the probed height. -/
  | probeAccept
  deriving DecidableEq, Repr

/-- How the printer declines a request. -/
inductive Refusal where
  /-- It gives a reason. -/
  | rejected (reason : String)
  /-- It is starting or shut down. -/
  | notReady
  /-- It is still at work on another request. -/
  | busy
  deriving DecidableEq, Repr, Inhabited

namespace Refusal

/-- A refusal with a reason, which is cut to the size of a message. -/
def because (reason : String) : Refusal :=
  rejected (Text.cutString Status.messageRoom reason)

/-- The text shown for a refusal. -/
def message : Refusal → String
  | rejected reason => reason
  | notReady => "printer not ready"
  | busy => "printer busy"

end Refusal

/-- The text for a printer whose status cannot be read. -/
def statusUnavailable : String := "printer status unavailable"

end PrinterPanel
