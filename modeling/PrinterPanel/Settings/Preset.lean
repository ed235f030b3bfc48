import PrinterPanel.Text.Fit

/-!
# Material presets

The panel preheats the printer for one of two materials.
-/

namespace PrinterPanel

/-- The materials with a preset. -/
inductive Material where
  | pla
  | tpu
  deriving DecidableEq, Repr, Inhabited

/-- The heat and fan settings for a material. -/
structure Preset where
  /-- Name of the material. -/
  name : String
  /-- Target of the hotend (°C). -/
  hotend : Int
  /-- Target of the bed (°C). -/
  bed : Int
  /-- Speed of the part fan (percent). -/
  fan : Nat
  deriving DecidableEq, Repr, Inhabited

namespace Preset

/-- Bytes available for the name of a material. -/
def nameRoom : Nat := 8

/-- A preset; a name that does not fit is left empty. -/
def named (name : String) (hotend bed : Int) (fan : Nat) : Preset :=
  ⟨Text.orEmpty nameRoom name, hotend, bed, fan⟩

end Preset

/-- The presets of all materials. -/
structure Presets where
  /-- The preset for PLA. -/
  pla : Preset
  /-- The preset for TPU. -/
  tpu : Preset
  deriving DecidableEq, Repr, Inhabited

namespace Presets

/-- The standard presets. -/
def standard : Presets := ⟨⟨"PLA", 200, 60, 100⟩, ⟨"TPU", 210, 100, 100⟩⟩

/-- The preset for a material. -/
def get (p : Presets) : Material → Preset
  | .pla => p.pla
  | .tpu => p.tpu

/-- The presets with the one for a material changed. -/
def update (p : Presets) (m : Material) (f : Preset → Preset) : Presets :=
  match m with
  | .pla => { p with pla := f p.pla }
  | .tpu => { p with tpu := f p.tpu }

end Presets

end PrinterPanel
