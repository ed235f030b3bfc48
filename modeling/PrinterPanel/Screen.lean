/-!
# Screens

Exactly one screen is up at a time. It decides what a key does and what may be redrawn. The user
moves from screen to screen; some changes of the printer force a screen, whatever the user does.
-/

namespace PrinterPanel

/-- The screens of the panel. -/
inductive Screen where
  /-- Four large pictures that lead to the menus. -/
  | mainMenu
  /-- The files that can be printed. -/
  | selectFile
  /-- Moving, homing and preheating. -/
  | prepare
  /-- The way to temperatures, motion and machine data. -/
  | control
  /-- The macros of the user. -/
  | misc
  /-- A print, with buttons to tune, pause and stop it. -/
  | printProcess
  /-- The axes that can be moved. -/
  | axisMove
  /-- The temperatures and the way to the presets. -/
  | temperature
  /-- Limits of the motion. -/
  | motion
  /-- Machine data. -/
  | info
  /-- What can be changed during a print. -/
  | tune
  /-- The preset for PLA. -/
  | plaPreheat
  /-- The preset for TPU. -/
  | tpuPreheat
  /-- Editors of the motion limits, each with one for the value. -/
  | maxSpeed | maxSpeedValue | maxAcceleration | maxAccelerationValue | maxJerk | maxJerkValue
  | step | stepValue
  /-- A notice that a function is missing. -/
  | featureNotAvailable
  /-- A notice while the axes are homed. -/
  | homing
  /-- Editors of one value in its menu row. -/
  | moveX | moveY | moveZ | extruder | hotendTemp | zOffset | bedTemp | fanSpeed | printSpeed
  /-- The question whether to pause or stop a print. -/
  | printWindow
  /-- A notice that the hotend is too cold to extrude. -/
  | tooCold
  /-- Probing of the bed by hand. -/
  | manualProbe
  /-- A message with a button. -/
  | messagePopup
  /-- A browser through the pictograms. -/
  | iconFinder
  deriving DecidableEq, Repr, Inhabited

/-- A change of the printer that may force a screen. -/
inductive Demand where
  /-- A print began. -/
  | printStarted
  /-- The print came to an end. -/
  | jobEnded
  /-- Probing by hand began. -/
  | probeStarted
  /-- Probing by hand came to an end. -/
  | probeEnded
  /-- All axes are homed. -/
  | homingComplete
  deriving DecidableEq, Repr, Inhabited

namespace Screen

/-- Whether a value is edited. -/
def isEditor : Screen → Bool
  | moveX | moveY | moveZ | extruder | hotendTemp | zOffset | bedTemp | fanSpeed | printSpeed =>
    true
  | _ => false

/-- Whether the status area stays up to date below the screen. -/
def showsStatus : Screen → Bool
  | mainMenu | messagePopup | misc | manualProbe | iconFinder => false
  | _ => true

/-- Whether a message gives way to this screen again. -/
def acceptsReturn : Screen → Bool
  | motion | misc | info | temperature | prepare | control | tune => true
  | _ => false

/-- The screen after a change of the printer. -/
def after (s : Screen) : Demand → Screen
  | .printStarted => printProcess
  | .jobEnded => mainMenu
  | .probeStarted => manualProbe
  | .probeEnded => if s = manualProbe then mainMenu else s
  | .homingComplete => if s = homing then prepare else s

end Screen

end PrinterPanel
