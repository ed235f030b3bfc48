import PrinterPanel.Bounds
import PrinterPanel.Input.Key
import PrinterPanel.Printer.Command
import PrinterPanel.Screen
import PrinterPanel.Settings.Limits

/-!
# Editing of a value

While a value is edited, the knob changes it instead of moving a cursor. The field that is edited
decides the range of the value, its decimal places and what happens when it is accepted.
-/

namespace PrinterPanel

/-- Where an edited value goes. -/
inductive Target where
  /-- To the printer. -/
  | live
  /-- Into the preset of a material. -/
  | preset (material : Material)
  deriving DecidableEq, Repr, Inhabited

/-- The values of a preset. -/
inductive PresetField where
  | hotend | bed | fan
  deriving DecidableEq, Repr, Inhabited

/-- What is edited. -/
inductive Field where
  /-- Position of an axis (0.1 mm). -/
  | axis (axis : Axis)
  /-- Position of the extruder (0.1 mm), which was `origin` at first. -/
  | extruder (origin : Int)
  /-- Temperature of the hotend (°C). -/
  | hotend (target : Target)
  /-- Temperature of the bed (°C). -/
  | bed (target : Target)
  /-- Speed of the fan (percent). -/
  | fan (target : Target)
  /-- Speed factor (percent). -/
  | printSpeed
  /-- Z offset (µm). -/
  | zOffset
  deriving DecidableEq, Repr, Inhabited

/-- Micrometres in a step of the position editors. -/
def positionUnit : Int := 100

/-- Steps of the position editors in a millimetre. -/
def stepsPerMm : Int := 10

namespace Field

/-- The screen on which a field is edited. -/
def screen : Field → Screen
  | axis .x => .moveX
  | axis .y => .moveY
  | axis .z => .moveZ
  | axis .e | extruder _ => .extruder
  | hotend _ => .hotendTemp
  | bed _ => .bedTemp
  | fan _ => .fanSpeed
  | printSpeed => .printSpeed
  | zOffset => .zOffset

/-- The range of a field. -/
def bounds (f : Field) (l : Limits) : Bounds :=
  match f with
  | axis .x => .between (l.x.min * stepsPerMm) (l.x.max * stepsPerMm)
  | axis .y => .between (l.y.min * stepsPerMm) (l.y.max * stepsPerMm)
  | axis _ => .between (l.z.min * stepsPerMm) (l.z.max * stepsPerMm)
  | extruder origin =>
    let reach := l.maxExtrusion * stepsPerMm
    .between (Bounds.word.nearest (origin - reach)) (Bounds.word.nearest (origin + reach))
  | hotend _ => .between l.hotend.min l.hotend.max
  | bed _ => .between l.bed.min l.bed.max
  | fan _ => .between 0 100
  | printSpeed => .word
  | zOffset => .between (-l.zOffset) l.zOffset

/-- Decimal places that a field shows. -/
def decimals : Field → Nat
  | axis _ | extruder _ => 1
  | zOffset => 3
  | _ => 0

end Field

/-- Speeds of the axes when they are moved from the panel (mm/min). -/
def Axis.feedrate : Axis → Nat
  | x | y => 5000
  | z => 600
  | e => 300

/-- What accepting an edit does. -/
inductive EditEffect where
  /-- Send a command. -/
  | command (c : Command)
  /-- Store a value in a preset. -/
  | preset (material : Material) (field : PresetField) (value : Int)
  deriving DecidableEq, Repr

/-- A value that is edited. -/
structure Edit where
  /-- What is edited. -/
  field : Field
  /-- The value so far. -/
  value : Int
  /-- The range of the value. -/
  bounds : Bounds
  /-- The screen that the edit ends on. -/
  returnTo : Screen
  /-- The row in which the value stands. -/
  row : Nat
  deriving DecidableEq, Repr

namespace Edit

/-- Begin to edit a field. -/
def start (field : Field) (initial : Int) (limits : Limits) (returnTo : Screen) (row : Nat) :
    Edit :=
  ⟨field, initial, field.bounds limits, returnTo, row⟩

/-- Apply a symbol; the result tells whether the value changed. Turning moves the value, which stops
at the ends of its range. -/
def apply (e : Edit) (s : Symbol) : Bool × Edit :=
  if s.amount = 0 then (false, e)
  else
    let next := e.bounds.nearest (Bounds.word.nearest (e.value + s.amount))
    (next != e.value, { e with value := next })

/-- The edit after a symbol. -/
def turn (e : Edit) (s : Symbol) : Edit := (e.apply s).2

/-- The value after a symbol is another one just if the symbol is said to change it. -/
theorem apply_fst_iff (e : Edit) (s : Symbol) :
    (e.apply s).1 = true ↔ (e.turn s).value ≠ e.value := by
  unfold turn apply
  split <;> simp

/-- The edited position (µm). -/
def um (e : Edit) : Int := Bounds.word.nearest (e.value * positionUnit)

/-- What accepting the present value does. -/
def effect (e : Edit) : EditEffect :=
  match e.field with
  | .axis a => .command (.moveAxis a e.um a.feedrate)
  | .extruder _ => .command (.moveAxis .e e.um Axis.e.feedrate)
  | .hotend .live => .command (.hotendTarget (Bounds.halfWord.nearest e.value))
  | .bed .live => .command (.bedTarget (Bounds.halfWord.nearest e.value))
  | .fan .live => .command (.fanSpeed (clamp 0 100 e.value).toNat)
  | .hotend (.preset m) => .preset m .hotend e.value
  | .bed (.preset m) => .preset m .bed e.value
  | .fan (.preset m) => .preset m .fan e.value
  | .printSpeed => .command (.feedrate e.value)
  | .zOffset => .command (.zOffset e.value)

end Edit

/-- Store an edited value in one field of a preset. -/
def Preset.store (p : Preset) (field : PresetField) (value : Int) : Preset :=
  match field with
  | .hotend => { p with hotend := Bounds.halfWord.nearest value }
  | .bed => { p with bed := Bounds.halfWord.nearest value }
  | .fan => { p with fan := (clamp 0 100 value).toNat }

end PrinterPanel
