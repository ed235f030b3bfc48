import PrinterPanel.Settings.Pin

/-!
# Rotary encoder settings
-/

namespace PrinterPanel

/-- How the rotary encoder is wired and timed. -/
structure EncoderSettings where
  /-- Pin of the first phase. -/
  phaseA : Pin
  /-- Pin of the second phase. -/
  phaseB : Pin
  /-- Phase transitions from one detent to the next. -/
  stepsPerDetent : Nat
  /-- Detents that follow within this time of each other are fast (ms). -/
  fastRateMs : Nat
  /-- The button is held this long for a long click (ms). -/
  longPressMs : Nat
  deriving DecidableEq, Repr, Inhabited

namespace EncoderSettings

/-- The pins that are used if none are given. -/
def defaultPins : String := "^PA12, ^PA11"

/-- The standard encoder: four transitions in a detent, on the default pins. -/
def standard : EncoderSettings where
  phaseA := ⟨"PA12", false, .up⟩
  phaseB := ⟨"PA11", false, .up⟩
  stepsPerDetent := 4
  fastRateMs := 30
  longPressMs := 800

/-- Check and build encoder settings, with the standard long press. -/
def build (pins : String) (stepsPerDetent fastRateMs : Nat) :
    Except SettingsError EncoderSettings := do
  let (a, b) ← Pin.parsePair pins
  if stepsPerDetent ≠ 2 ∧ stepsPerDetent ≠ 4 then throw .stepsPerDetent
  if fastRateMs = 0 then throw .fastRate
  pure
    { phaseA := a, phaseB := b, stepsPerDetent := stepsPerDetent, fastRateMs := fastRateMs,
      longPressMs := standard.longPressMs }

end EncoderSettings

end PrinterPanel
