import PrinterPanel.Json.Write
import PrinterPanel.Settings.Button
import PrinterPanel.Settings.Encoder
import PrinterPanel.Settings.Stored.Basic

/-!
# Stored pins, encoder and button
-/

namespace PrinterPanel.Stored

open Json

/-- The stored name of a pull. -/
def pullName : Pull → String
  | .floating => "None"
  | .up => "Up"
  | .down => "Down"

/-- The pull with a stored name. -/
def pullOfName? (s : String) : Option Pull :=
  [Pull.floating, .up, .down].find? (pullName · == s)

/-- Write a pin. -/
def ofPin (p : Pin) : String :=
  Write.object [
    ("name", Write.text p.name),
    ("inverted", Write.boolean p.activeLow),
    ("pull", Write.text (pullName p.pull))]

/-- Read a pin. -/
def pin? (v : Value) : Option Pin := do
  let f ← fields? ["name", "inverted", "pull"] v
  return {
    name := ← f.required "name" (text? Pin.nameRoom)
    activeLow := ← f.required "inverted" boolean?
    pull := ← f.required "pull" (choice? pullOfName?) }

/-- Write the encoder settings. -/
def ofEncoder (e : EncoderSettings) : String :=
  Write.object [
    ("pins", Write.list [ofPin e.phaseA, ofPin e.phaseB]),
    ("steps_per_detent", Write.natural e.stepsPerDetent),
    ("fast_rate_ms", Write.natural e.fastRateMs),
    ("long_press_ms", Write.natural e.longPressMs)]

/-- Read encoder settings. -/
def encoder? (v : Value) : Option EncoderSettings := do
  let f ← fields? ["pins", "steps_per_detent", "fast_rate_ms", "long_press_ms"] v
  let (a, b) ← f.required "pins" (pair? pin?)
  return {
    phaseA := a
    phaseB := b
    stepsPerDetent := ← f.required "steps_per_detent" (natural? .byte)
    fastRateMs := ← f.required "fast_rate_ms" (natural? .counter)
    longPressMs := ← f.required "long_press_ms" (natural? .counter) }

/-- Write a voltage window. -/
def ofWindow (w : VoltageWindow) : String :=
  Write.object [("min", Write.single w.low), ("max", Write.single w.high)]

/-- Read a voltage window. -/
def window? (v : Value) : Option VoltageWindow := do
  let f ← fields? ["min", "max"] v
  return ⟨← f.required "min" number?, ← f.required "max" number?⟩

/-- Write the button settings. -/
def ofButton (b : ButtonSettings) : String :=
  Write.object [
    ("click_pin", ofPin b.pin),
    ("analog_range", Write.optional ofWindow b.window),
    ("analog_pullup_ohms", Write.natural b.pullupOhms)]

/-- Read button settings. -/
def button? (v : Value) : Option ButtonSettings := do
  let f ← fields? ["click_pin", "analog_range", "analog_pullup_ohms"] v
  return {
    pin := ← f.required "click_pin" pin?
    window := ← (present f).optional "analog_range" window?
    pullupOhms := ← f.required "analog_pullup_ohms" (natural? .counter) }

end PrinterPanel.Stored
