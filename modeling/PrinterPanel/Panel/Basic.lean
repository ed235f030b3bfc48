import PrinterPanel.Display.Canvas
import PrinterPanel.Edit
import PrinterPanel.Files
import PrinterPanel.Input.Knob
import PrinterPanel.Menu.Item
import PrinterPanel.Menu.ListView
import PrinterPanel.Settings.Basic

/-!
# The state of the panel

What the panel remembers between two operations: the screen that is up, the position in every
list, an edit in progress, the print and the probing that it follows, and the last report of the
printer.
-/

namespace PrinterPanel

open Menu (Cursor ListView)

/-- The menus that are lists of rows. -/
inductive ListMenu where
  | files | prepare | control | misc | axes | temperature | motion | tune
  | preset (material : Material)
  deriving DecidableEq, Repr, Inhabited

namespace ListMenu

/-- The screen that shows a list. -/
def screen : ListMenu → Screen
  | files => .selectFile
  | prepare => .prepare
  | control => .control
  | misc => .misc
  | axes => .axisMove
  | temperature => .temperature
  | motion => .motion
  | tune => .tune
  | preset .pla => .plaPreheat
  | preset .tpu => .tpuPreheat

end ListMenu

/-- The place in every list and in every other choice. A list keeps its place while another one
is open. -/
structure Places where
  /-- The tile of the main menu. -/
  page : Cursor
  /-- The button of the print screen: tune, pause, stop. -/
  print : Cursor
  /-- The answer to a question: confirm, cancel. -/
  confirm : Cursor
  /-- The pictogram in the browser for them. -/
  icon : Cursor
  files : ListView
  prepare : ListView
  control : ListView
  misc : ListView
  axes : ListView
  temperature : ListView
  motion : ListView
  tune : ListView
  pla : ListView
  tpu : ListView
  deriving DecidableEq, Repr

namespace Places

/-- Every list at its start. -/
def start : Places where
  page := .first
  print := .first
  confirm := .first
  icon := .first
  files := .start
  prepare := .start
  control := .start
  misc := .start
  axes := .start
  temperature := .start
  motion := .start
  tune := .start
  pla := .start
  tpu := .start

/-- The place in a list. -/
def get (p : Places) : ListMenu → ListView
  | .files => p.files
  | .prepare => p.prepare
  | .control => p.control
  | .misc => p.misc
  | .axes => p.axes
  | .temperature => p.temperature
  | .motion => p.motion
  | .tune => p.tune
  | .preset .pla => p.pla
  | .preset .tpu => p.tpu

/-- Move to another place in a list. -/
def set (p : Places) (m : ListMenu) (l : ListView) : Places :=
  match m with
  | .files => { p with files := l }
  | .prepare => { p with prepare := l }
  | .control => { p with control := l }
  | .misc => { p with misc := l }
  | .axes => { p with axes := l }
  | .temperature => { p with temperature := l }
  | .motion => { p with motion := l }
  | .tune => { p with tune := l }
  | .preset .pla => { p with pla := l }
  | .preset .tpu => { p with tpu := l }

/-- Placing one list leaves the other lists where they are. -/
theorem get_set (p : Places) (m m' : ListMenu) (l : ListView) :
    (p.set m l).get m' = if m = m' then l else p.get m' := by
  rcases m with _ | _ | _ | _ | _ | _ | _ | _ | _ | _ <;>
    rcases m' with _ | _ | _ | _ | _ | _ | _ | _ | _ | _ <;> rfl

/-- Return to the start of a list. -/
def rewind (p : Places) (m : ListMenu) : Places := p.set m .start

/-- Go to an entry of a list. -/
def select (p : Places) (m : ListMenu) (item : Nat) : Places := p.set m ((p.get m).select item)

end Places

/-- What a question of the print screen is about. -/
inductive PrintAction where
  | pause | stop
  deriving DecidableEq, Repr, Inhabited

/-- What the panel keeps about a print. -/
structure PrintSession where
  /-- The notice of the finished print is up. -/
  completionShown : Bool
  /-- The print was finished at the last look. -/
  finished : Bool
  /-- The button to pause offers to resume. -/
  paused : Bool
  /-- The question that is asked. -/
  action : Option PrintAction
  deriving DecidableEq, Repr, Inhabited

/-- The state at the start of a print. -/
def PrintSession.fresh : PrintSession := ⟨false, false, false, none⟩

/-- What the panel keeps about probing by hand. -/
structure ProbeSession where
  /-- The chosen step size. -/
  step : Nat
  /-- The last move was refused. -/
  outOfRange : Bool
  deriving DecidableEq, Repr, Inhabited

/-- The state at the start of probing. -/
def ProbeSession.fresh : ProbeSession := ⟨0, false⟩

/-- Homing that was asked for in the prepare menu. -/
structure HomingRequest where
  /-- The entry of the prepare menu to return to. -/
  position : Nat
  deriving DecidableEq, Repr, Inhabited

/-- The panel between two operations. -/
structure Panel where
  /-- The panel that is drawn on. -/
  canvas : Display.Canvas
  /-- The settings; the presets in them can be edited. -/
  settings : Settings
  /-- The screen that is up. -/
  screen : Screen
  /-- The symbol that waits for the screen. -/
  latch : Latch
  /-- The screen that a popup gives way to. -/
  popupCaller : Option Screen
  /-- The places in the lists. -/
  places : Places
  /-- The edit in progress. -/
  edit : Option Edit
  /-- Fast turning counts as slow turning. -/
  rateLimited : Bool
  /-- The file browser. -/
  browser : Files.Browser
  /-- The print that is followed. -/
  print : PrintSession
  /-- The probing that is followed. -/
  probe : ProbeSession
  /-- The homing that is waited for. -/
  homing : Option HomingRequest
  /-- The job state at the last tick. -/
  lastJob : Job
  /-- The last report of the printer, if there was one. -/
  lastStatus : Option Status
  /-- The last message of the printer. -/
  lastMessage : String
  /-- Ticks since the last key. -/
  idleTicks : Nat
  /-- The backlight is dimmed. -/
  dimmed : Bool
  /-- The knob. -/
  knob : Knob
  deriving DecidableEq, Repr

namespace Panel

/-- A panel of a size that was just switched on. -/
def ofSettings (s : Settings) (width height : Nat) : Panel where
  canvas := ⟨width, height, s.language⟩
  settings := s
  screen := .mainMenu
  latch := .empty
  popupCaller := none
  places := .start
  edit := none
  rateLimited := true
  browser := .empty
  print := .fresh
  probe := .fresh
  homing := none
  lastJob := .standby
  lastStatus := none
  lastMessage := ""
  idleTicks := 0
  dimmed := false
  knob := .ofSettings s.encoder

/-- Put away an edit without using its value, and return to the menu it was opened from. -/
def abandonEdit (p : Panel) : Panel :=
  match p.edit with
  | none => p
  | some e => { p with edit := none, rateLimited := true, screen := e.returnTo }

/-- Number of entries of a list, the way back included. -/
def entryCount (p : Panel) : ListMenu → Nat
  | .files => p.browser.entries.length + 1
  | .prepare => (Menu.PrepareItem.list p.settings.features).length
  | .control => Menu.ControlItem.list.length
  | .misc => p.settings.macros.length + 1
  | .axes => Menu.AxisItem.list.length
  | .temperature => (Menu.TemperatureItem.list p.settings.features).length
  | .motion => (Menu.MotionItem.list p.settings.features).length
  | .tune => (Menu.TuneItem.list p.settings.features).length
  | .preset _ => (Menu.PreheatItem.list p.settings.features).length

end Panel

end PrinterPanel
