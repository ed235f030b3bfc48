import PrinterPanel.Display.MainMenu
import PrinterPanel.Display.Pages
import PrinterPanel.Display.Popup
import PrinterPanel.Display.PrintScreen
import PrinterPanel.Display.StatusArea
import PrinterPanel.Panel.Basic

/-!
# What the panel draws

Each screen as it is drawn from nothing, and the rows of each list. The numbers beside the rows
come from the last report of the printer or from the presets.
-/

namespace PrinterPanel

open Display
open Menu

/-- A position in the steps of the position editors, cut towards zero. -/
def positionSteps (um : Int) : Int := um.tdiv positionUnit

namespace Menu

/-- The axis that an entry moves. -/
def AxisItem.axis? : AxisItem → Option Axis
  | back => none
  | x => some .x
  | y => some .y
  | z => some .z
  | e => some .e

/-- The number beside an entry of the prepare menu. -/
def PrepareItem.figure (s : Status) : PrepareItem → Option Figure
  | zOffset => some ⟨3, s.zOffset⟩
  | _ => none

/-- The number beside an entry of the axis menu. -/
def AxisItem.figure (s : Status) (i : AxisItem) : Option Figure :=
  i.axis?.map fun a => ⟨1, positionSteps (s.position.get a)⟩

/-- The number beside an entry of the temperature menu. -/
def TemperatureItem.figure (s : Status) : TemperatureItem → Option Figure
  | hotend => some ⟨0, s.hotend.target⟩
  | bed => some ⟨0, s.bed.target⟩
  | fan => some ⟨0, s.fan⟩
  | _ => none

/-- The number beside an entry of the tune menu. -/
def TuneItem.figure (s : Status) : TuneItem → Option Figure
  | back => none
  | speed => some ⟨0, s.feedrate⟩
  | hotend => some ⟨0, s.hotend.target⟩
  | bed => some ⟨0, s.bed.target⟩
  | fan => some ⟨0, s.fan⟩
  | zOffset => some ⟨3, s.zOffset⟩

/-- The number beside an entry of a preset menu. -/
def PreheatItem.figure (p : Preset) : PreheatItem → Option Figure
  | hotend => some ⟨0, p.hotend⟩
  | bed => some ⟨0, p.bed⟩
  | fan => some ⟨0, p.fan⟩
  | _ => none

end Menu

namespace Panel

/-- Numbers beside entries that come from the last report, if there was one. -/
def statusFigures {α : Type} (p : Panel) (items : List α) (figure : Status → α → Option Figure) :
    List (Option Figure) :=
  match p.lastStatus with
  | none => []
  | some s => items.map (figure s)

/-- The row of a file or folder; entry 0 is the way back. -/
def fileRow (p : Panel) (item row : Nat) : Drawing :=
  match p.browser.entries[item - 1]? with
  | none => []
  | some (.folder name) => p.canvas.row row Icon.folder (String.ofList name)
  | some (.file name) => p.canvas.row row Icon.file (String.ofList name)

/-- The row of a macro; entry 0 is the way back. -/
def macroRow (p : Panel) (item row : Nat) : Drawing :=
  match p.settings.macros[item - 1]? with
  | none => []
  | some m => p.canvas.row row m.icon m.label

/-- The row of an entry of a list. -/
def entryRow (p : Panel) (m : ListMenu) : Nat → Nat → Drawing :=
  let f := p.settings.features
  match m with
  | .files => p.fileRow
  | .misc => p.macroRow
  | .prepare =>
    p.canvas.itemRow (PrepareItem.list f) (p.statusFigures (PrepareItem.list f) PrepareItem.figure)
  | .control => p.canvas.itemRow ControlItem.list []
  | .axes => p.canvas.itemRow AxisItem.list (p.statusFigures AxisItem.list AxisItem.figure)
  | .temperature =>
    p.canvas.itemRow (TemperatureItem.list f)
      (p.statusFigures (TemperatureItem.list f) TemperatureItem.figure)
  | .motion => p.canvas.itemRow (MotionItem.list f) []
  | .tune => p.canvas.itemRow (TuneItem.list f) (p.statusFigures (TuneItem.list f) TuneItem.figure)
  | .preset material =>
    p.canvas.itemRow (PreheatItem.list f)
      ((PreheatItem.list f).map (PreheatItem.figure (p.settings.presets.get material)))

/-- The title above a list. -/
def listTitle (p : Panel) : ListMenu → Drawing
  | .files => p.canvas.frame Caption.fileTitle
  | .prepare => p.canvas.frame Caption.prepareTitle
  | .control => p.canvas.frame Caption.controlTitle
  | .misc => p.canvas.clear ++ p.canvas.titleText "Misc"
  | .axes => p.canvas.frame Caption.moveTitle
  | .temperature => p.canvas.frame Caption.temperatureTitle
  | .motion => p.canvas.frame Caption.motionTitle
  | .tune => p.canvas.frame Caption.tuneTitle
  | .preset .pla => p.canvas.frame Caption.plaTitle
  | .preset .tpu => p.canvas.frame Caption.tpuTitle

/-- The rows of a list. A file browser without entries says that there is no medium. -/
def listRows (p : Panel) (m : ListMenu) : Drawing :=
  if m = .files ∧ p.browser.entries.isEmpty then
    p.canvas.clearRows ++ p.canvas.backRow true ++ p.canvas.noMedia
  else p.canvas.listWith (p.entryCount m) (p.places.get m) (p.entryRow m)

/-- What changes in a list after a step of its cursor. -/
def scrolled (p : Panel) (m : ListMenu) (s : Scroll) : Drawing :=
  p.canvas.scrollWith s (p.entryRow m)

/-- The status area for the last report, if there was one. -/
def statusPicture (p : Panel) : Drawing :=
  match p.lastStatus with
  | none => []
  | some s => p.canvas.statusArea s

/-- The print screen. -/
def printPicture (p : Panel) : Drawing :=
  let s := p.lastStatus.getD .atRest
  p.canvas.printScreen s.file p.places.print.position p.print.paused ++
  if p.print.completionShown then p.canvas.printFinished else p.canvas.progress s.progress

/-- The probing page, with or without its header and footer. -/
def probePicture (p : Panel) (full : Bool) : Drawing :=
  let um := (p.lastStatus.bind (·.probe)).getD 0
  p.canvas.probePage um p.probe.step p.probe.outOfRange full

/-- The pictogram that is looked at. -/
def shownIcon (p : Panel) : Nat := min p.places.icon.position 255

/-- A list with its title; below it the status area, unless the list fills the panel. -/
def listPicture (p : Panel) (m : ListMenu) : Drawing :=
  p.listTitle m ++ p.listRows m ++ if m = .misc then [] else p.statusPicture

/-- A screen drawn from nothing. Messages are drawn with their text, and the editors in the rows
of their menus. -/
def picture (p : Panel) : Screen → Drawing
  | .mainMenu => p.canvas.mainMenu p.places.page.position p.settings.features.miscPage
  | .selectFile => p.listPicture .files
  | .prepare => p.listPicture .prepare
  | .control => p.listPicture .control
  | .misc => p.listPicture .misc
  | .axisMove => p.listPicture .axes
  | .temperature => p.listPicture .temperature
  | .motion => p.listPicture .motion
  | .tune => p.listPicture .tune
  | .plaPreheat => p.listPicture (.preset .pla)
  | .tpuPreheat => p.listPicture (.preset .tpu)
  | .info =>
    p.canvas.machineData p.settings.limits p.settings.screen.version p.settings.screen.website ++
      p.statusPicture
  | .printProcess => p.printPicture ++ p.statusPicture
  | .printWindow =>
    p.canvas.pauseOrStop (p.print.action == some .stop) (p.places.confirm.position == 0)
  | .featureNotAvailable => p.canvas.notAvailableNotice
  | .homing => p.canvas.homingNotice
  | .tooCold => p.canvas.tooColdNotice
  | .manualProbe => p.probePicture true
  | .iconFinder => p.canvas.iconPage p.shownIcon
  | _ => []

end Panel

end PrinterPanel
