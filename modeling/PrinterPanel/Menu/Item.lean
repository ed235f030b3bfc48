import PrinterPanel.Display.Icon
import PrinterPanel.Settings.Basic

/-!
# Entries of the fixed menus

Some entries need an optional part of the printer, so each list is made for the given features.
The first entry always leads back.
-/

namespace PrinterPanel.Menu

/-- What a row shows of an entry. -/
class MenuItem (α : Type) where
  /-- The text of the row. -/
  label : α → String
  /-- The pictogram of the row. -/
  icon : α → Nat

/-- Position of an entry in a list, or that of the way back if it is not listed. -/
def positionOf {α : Type} [BEq α] (items : List α) (item : α) : Nat :=
  (items.findIdx? (· == item)).getD 0

/-- Entries of the menu that prepares a print. -/
inductive PrepareItem where
  | back | move | disableSteppers | home | zOffset | preheatPla | preheatTpu | cooldown
  deriving DecidableEq, Repr

/-- Entries of the menu that leads to temperatures, motion and machine data. -/
inductive ControlItem where
  | back | temperature | motion | info
  deriving DecidableEq, Repr

/-- Entries of the menu for a running print. -/
inductive TuneItem where
  | back | speed | hotend | bed | fan | zOffset
  deriving DecidableEq, Repr

/-- Entries of the temperature menu. -/
inductive TemperatureItem where
  | back | hotend | bed | fan | plaPreset | tpuPreset
  deriving DecidableEq, Repr

/-- Entries of the menu for one material preset. -/
inductive PreheatItem where
  | back | hotend | bed | fan | save
  deriving DecidableEq, Repr

/-- Entries of the motion menu. -/
inductive MotionItem where
  | back | maxSpeed | maxAcceleration | maxJerk | steps
  deriving DecidableEq, Repr

/-- Entries of the menu that moves the axes. -/
inductive AxisItem where
  | back | x | y | z | e
  deriving DecidableEq, Repr

/-- The prepare menu. -/
def PrepareItem.list (f : Features) : List PrepareItem :=
  [back, move, disableSteppers, home] ++ (if f.bedProbe then [zOffset] else []) ++
    [preheatPla, preheatTpu, cooldown]

/-- The control menu. -/
def ControlItem.list : List ControlItem :=
  [back, temperature, motion, info]

/-- The tune menu. -/
def TuneItem.list (f : Features) : List TuneItem :=
  [back, speed, hotend, bed] ++ (if f.fan then [fan] else []) ++
    (if f.bedProbe then [zOffset] else [])

/-- The temperature menu. -/
def TemperatureItem.list (f : Features) : List TemperatureItem :=
  [back, hotend, bed] ++ (if f.fan then [fan] else []) ++ [plaPreset, tpuPreset]

/-- The menu of a preset. -/
def PreheatItem.list (f : Features) : List PreheatItem :=
  [back, hotend, bed] ++ (if f.fan then [fan] else []) ++ [save]

/-- The motion menu. -/
def MotionItem.list (f : Features) : List MotionItem :=
  [back, maxSpeed, maxAcceleration] ++ (if f.jerk then [maxJerk] else []) ++ [steps]

/-- The axis menu. -/
def AxisItem.list : List AxisItem :=
  [back, x, y, z, e]

open Display

instance : MenuItem PrepareItem where
  label
    | .back => "Back"
    | .move => "Move"
    | .disableSteppers => "Disable Steppers"
    | .home => "Auto Home"
    | .zOffset => "Z-Offset"
    | .preheatPla => "Preheat PLA"
    | .preheatTpu => "Preheat TPU"
    | .cooldown => "Cooldown"
  icon
    | .back => Icon.back
    | .move => Icon.axes
    | .disableSteppers => Icon.motorsOff
    | .home => Icon.home
    | .zOffset => Icon.setHome
    | .preheatPla => Icon.preheatPla
    | .preheatTpu => Icon.preheatTpu
    | .cooldown => Icon.cooldown

instance : MenuItem ControlItem where
  label
    | .back => "Back"
    | .temperature => "Temperature"
    | .motion => "Motion"
    | .info => "Info"
  icon
    | .back => Icon.back
    | .temperature => Icon.temperature
    | .motion => Icon.motion
    | .info => Icon.info

instance : MenuItem TuneItem where
  label
    | .back => "Back"
    | .speed => "Print Speed"
    | .hotend => "Nozzle Temp"
    | .bed => "Bed Temp"
    | .fan => "Fan Speed"
    | .zOffset => "Z-Offset"
  icon
    | .back => Icon.back
    | .speed => Icon.speed
    | .hotend => Icon.hotend
    | .bed => Icon.bed
    | .fan => Icon.fan
    | .zOffset => Icon.zOffset

instance : MenuItem TemperatureItem where
  label
    | .back => "Back"
    | .hotend => "Nozzle Temp"
    | .bed => "Bed Temp"
    | .fan => "Fan Speed"
    | .plaPreset => "PLA Settings"
    | .tpuPreset => "TPU Settings"
  icon
    | .back => Icon.back
    | .hotend => Icon.setHotend
    | .bed => Icon.setBed
    | .fan => Icon.fan
    | .plaPreset => Icon.plaSettings
    | .tpuPreset => Icon.tpuSettings

instance : MenuItem PreheatItem where
  label
    | .back => "Back"
    | .hotend => "Nozzle Temp"
    | .bed => "Bed Temp"
    | .fan => "Fan Speed"
    | .save => "Save"
  icon
    | .back => Icon.back
    | .hotend => Icon.setHotend
    | .bed => Icon.setBed
    | .fan => Icon.fan
    | .save => Icon.save

instance : MenuItem MotionItem where
  label
    | .back => "Back"
    | .maxSpeed => "Max Speed"
    | .maxAcceleration => "Max Acceleration"
    | .maxJerk => "Max Jerk"
    | .steps => "Steps-per-mm"
  icon
    | .back => Icon.back
    | .maxSpeed => Icon.maxSpeed
    | .maxAcceleration => Icon.maxAcceleration
    | .maxJerk => Icon.maxJerk
    | .steps => Icon.steps

instance : MenuItem AxisItem where
  label
    | .back => "Back"
    | .x => "Move X"
    | .y => "Move Y"
    | .z => "Move Z"
    | .e => "Extruder"
  icon
    | .back => Icon.back
    | .x => Icon.moveX
    | .y => Icon.moveY
    | .z => Icon.moveZ
    | .e => Icon.extrude

/-- A number beside a menu row. -/
structure Figure where
  /-- Decimal places that are shown. -/
  decimals : Nat
  /-- The number, scaled by ten to the decimal places. -/
  value : Int
  deriving DecidableEq, Repr

end PrinterPanel.Menu
