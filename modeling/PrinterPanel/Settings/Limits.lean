import PrinterPanel.Settings.Error

/-!
# Machine limits

The travel and temperature ranges of the printer. They bound the values that can be entered.
-/

namespace PrinterPanel

/-- The integers from `min` to `max`. -/
structure Span where
  /-- The lower end. -/
  min : Int
  /-- The upper end. -/
  max : Int
  deriving DecidableEq, Repr, Inhabited

/-- What the printer can do. -/
structure Limits where
  /-- Travel of the X axis (mm). -/
  x : Span
  /-- Travel of the Y axis (mm). -/
  y : Span
  /-- Travel of the Z axis (mm). -/
  z : Span
  /-- Targets of the hotend (°C). -/
  hotend : Span
  /-- Targets of the bed (°C). -/
  bed : Span
  /-- The extruder does not move below this temperature (°C). -/
  minExtrudeTemp : Int
  /-- The longest single extrusion (mm). -/
  maxExtrusion : Int
  /-- The Z offset stays within this distance of zero (µm). -/
  zOffset : Int
  deriving DecidableEq, Repr, Inhabited

namespace Limits

/-- The standard limits. -/
def standard : Limits where
  x := ⟨0, 220⟩
  y := ⟨0, 220⟩
  z := ⟨0, 250⟩
  hotend := ⟨5, 260⟩
  bed := ⟨5, 140⟩
  minExtrudeTemp := 170
  maxExtrusion := 200
  zOffset := 20000

/-- Refuse empty ranges and negative windows. -/
def check (l : Limits) : Except SettingsError Unit := do
  if l.x.max ≤ l.x.min ∨ l.y.max ≤ l.y.min ∨ l.z.max ≤ l.z.min then throw .axisRange
  if l.hotend.max ≤ l.hotend.min ∨ l.bed.max ≤ l.bed.min then throw .temperatureRange
  if l.maxExtrusion < 0 then throw .extrudeLength
  if l.zOffset < 0 then throw .zOffsetLimit

end Limits

end PrinterPanel
