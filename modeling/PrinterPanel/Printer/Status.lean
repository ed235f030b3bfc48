/-!
# Printer status

What the printer reports about itself: job, temperatures, position, progress and messages.
-/

namespace PrinterPanel

/-- State of the print job. -/
inductive Job where
  | standby | printing | paused | complete | cancelled | error
  deriving DecidableEq, Repr, Inhabited

/-- The job state that a printer calls by this name. -/
def Job.ofName? : String → Option Job
  | "standby" | "operational" => some .standby
  | "printing" => some .printing
  | "paused" | "pausing" => some .paused
  | "complete" => some .complete
  | "cancelled" => some .cancelled
  | "error" => some .error
  | _ => none

/-- Temperature of a heater (°C). -/
structure Heater where
  /-- The measured temperature. -/
  current : Int
  /-- The temperature it is set to. -/
  target : Int
  deriving DecidableEq, Repr, Inhabited

/-- Whether a heater has yet to reach its target. -/
def Heater.isHeating (h : Heater) : Bool := h.current < h.target

/-- The axes that the panel moves. -/
inductive Axis where
  | x | y | z | e
  deriving DecidableEq, Repr, Inhabited

/-- The letter of an axis. -/
def Axis.letter : Axis → Char
  | x => 'X'
  | y => 'Y'
  | z => 'Z'
  | e => 'E'

/-- Position of the tool (µm). -/
structure Position where
  x : Int
  y : Int
  z : Int
  e : Int
  deriving DecidableEq, Repr, Inhabited

/-- Position along one axis. -/
def Position.get (p : Position) : Axis → Int
  | .x => p.x
  | .y => p.y
  | .z => p.z
  | .e => p.e

/-- Which axes know where they are. -/
structure Homed where
  x : Bool
  y : Bool
  z : Bool
  deriving DecidableEq, Repr, Inhabited

/-- Whether every axis is homed. -/
def Homed.all (h : Homed) : Bool := h.x && h.y && h.z

/-- Progress of a print. -/
structure Progress where
  /-- Tenths of a percent of the file that are printed. -/
  permille : Nat
  /-- Time spent (s). -/
  elapsed : Nat
  deriving DecidableEq, Repr, Inhabited

namespace Progress

/-- The progress before a print. -/
def none : Progress := ⟨0, 0⟩

/-- Whole percent, at most 100. -/
def percent (p : Progress) : Nat := min p.permille 1000 / 10

/-- Whether the whole file is printed. -/
def isFinished (p : Progress) : Bool := 1000 ≤ p.permille

/-- Time left if the print goes on at its pace (s). The expected total is kept in 32 bits. -/
def remaining (p : Progress) : Nat :=
  if p.permille = 0 then 0
  else p.elapsed * 1000 / min p.permille 1000 % 0x100000000 - p.elapsed

end Progress

/-- Everything that the panel shows of the printer. -/
structure Status where
  /-- State of the job. -/
  job : Job
  /-- Temperature of the hotend. -/
  hotend : Heater
  /-- Temperature of the bed. -/
  bed : Heater
  /-- Speed of the part fan (percent). -/
  fan : Nat
  /-- Speed factor (percent). -/
  feedrate : Int
  /-- Extrusion factor (percent). -/
  flow : Int
  /-- Position of the tool. -/
  position : Position
  /-- Which axes are homed. -/
  homed : Homed
  /-- The Z offset in use (µm). -/
  zOffset : Int
  /-- Height of the nozzle (µm), while the bed is probed by hand. -/
  probe : Option Int
  /-- Progress of the print. -/
  progress : Progress
  /-- Name of the file in print. -/
  file : String
  /-- A message for the operator, empty if there is none. -/
  message : String
  /-- What went wrong, if the job is in error. -/
  errorMessage : String
  deriving DecidableEq, Repr, Inhabited

namespace Status

/-- Bytes available for the file name. -/
def fileRoom : Nat := 64

/-- Bytes available for a message. -/
def messageRoom : Nat := 96

/-- A printer at rest, cold and at its origin. -/
def atRest : Status where
  job := .standby
  hotend := ⟨0, 0⟩
  bed := ⟨0, 0⟩
  fan := 0
  feedrate := 0
  flow := 0
  position := ⟨0, 0, 0, 0⟩
  homed := ⟨false, false, false⟩
  zOffset := 0
  probe := none
  progress := .none
  file := ""
  message := ""
  errorMessage := ""

/-- Whether two reports differ in a value of the status area. -/
def areaDiffers (a b : Status) : Bool :=
  a.hotend != b.hotend || a.bed != b.bed || a.fan != b.fan || a.feedrate != b.feedrate ||
    a.flow != b.flow || a.zOffset != b.zOffset

/-- Whether the job is paused. -/
def isPaused (s : Status) : Bool := s.job == .paused

end Status

end PrinterPanel
