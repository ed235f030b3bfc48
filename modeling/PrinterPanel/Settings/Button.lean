import PrinterPanel.Numeric.Single
import PrinterPanel.Settings.Pin

/-!
# Push button settings

The button has a pin of its own, or it shares an analog input with other buttons and is down
while the voltage is inside its window.
-/

namespace PrinterPanel

open Numeric (Single)

/-- Voltages at which a button on an analog input counts as down. -/
structure VoltageWindow where
  /-- The lower end. -/
  low : Single
  /-- The upper end. -/
  high : Single
  deriving DecidableEq, Repr, Inhabited

/-- Check and build a window: the lower end lies below the upper one. -/
def VoltageWindow.build (low high : Single) : Except SettingsError VoltageWindow :=
  if low.less high then .ok ⟨low, high⟩ else .error .analogRange

/-- How the push button is wired. -/
structure ButtonSettings where
  /-- The pin of the button. -/
  pin : Pin
  /-- Its voltage window, if it shares an analog input. -/
  window : Option VoltageWindow
  /-- The resistor of the analog divider (ohm). -/
  pullupOhms : Nat
  deriving DecidableEq, Repr, Inhabited

namespace ButtonSettings

/-- The pin that is used if none is given. -/
def defaultPin : String := "^!PB1"

/-- The standard button: on the default pin, not analog. -/
def standard : ButtonSettings where
  pin := ⟨"PB1", true, .up⟩
  window := none
  pullupOhms := 4700

/-- Check and build button settings. -/
def build (pin : String) (window : Option VoltageWindow) (pullupOhms : Nat) :
    Except SettingsError ButtonSettings := do
  if pullupOhms = 0 then throw .pullupResistor
  pure ⟨← Pin.parse pin, window, pullupOhms⟩

end ButtonSettings

end PrinterPanel
