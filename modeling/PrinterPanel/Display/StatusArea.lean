import PrinterPanel.Display.Canvas
import PrinterPanel.Printer.Status

/-!
# Status area

Temperatures, speed, flow, fan and Z offset at the lower end of the panel.
-/

namespace PrinterPanel.Display.Canvas

/-- A heater: its picture, which moves while it heats, and the present and set temperatures. -/
def heater (_ : Canvas) (y : Int) (animation icon : Nat) (h : Heater) : Drawing :=
  [if h.isHeating then .icon animations animation 6 y else pictogram icon 6 y,
    .int (if h.isHeating then ⟨.font8x8, .yellow, .black⟩ else menuText) 3 26 (y + 6) h.current,
    .text menuText 60 (y + 6) "/",
    .int menuText 3 61 (y + 6) h.target]

/-- A percentage with its picture. -/
def percentage (_ : Canvas) (x y : Int) (icon : Nat) (value : Int) : Drawing :=
  [pictogram icon x y,
    .int menuText 3 (x + 20) (y + 6) value,
    .text menuText (x + 52) (y + 6) "%"]

/-- The status area. -/
def statusArea (c : Canvas) (s : Status) : Drawing :=
  c.clearStatus ++
  c.heater 262 Animation.hotendHeating Icon.hotend s.hotend ++
  c.heater 294 Animation.bedHeating Icon.bed s.bed ++
  c.percentage 99 262 Icon.speed s.feedrate ++
  c.percentage 99 294 Icon.flow s.flow ++
  c.percentage 165 262 Icon.fan s.fan ++
  [pictogram Icon.zOffset 165 294, .fixed menuText 1 3 191 300 s.zOffset]

end PrinterPanel.Display.Canvas
