import PrinterPanel.Display.Canvas
import PrinterPanel.Printer.Status
import PrinterPanel.Text.Fit

/-!
# Print screen

The file in print, a ring for its progress, the times, and three buttons. When the print is
finished, a button to confirm takes the place of the three.
-/

namespace PrinterPanel.Display.Canvas

/-- Bytes of the file name that are shown. -/
def fileNameRoom : Nat := 28

/-- Height of a button below a box. -/
def buttonHeight : Int := 31

/-- Left and right end of a print button. -/
def printButtonEnds : Nat → Int × Int
  | 0 => (12, 78)
  | 1 => (86, 151)
  | _ => (160, 225)

/-- Picture and caption of a print button. While the print is paused, the second one resumes. -/
def printButtonPictures (index : Nat) (selected paused : Bool) : Nat × Nat :=
  match index, selected with
  | 0, false => (Icon.tune, Caption.tune)
  | 0, true => (Icon.tuneSelected, Caption.tuneSelected)
  | 1, false => (if paused then Icon.resume else Icon.pause, Caption.pause)
  | 1, true => (if paused then Icon.resumeSelected else Icon.pauseSelected, Caption.pauseSelected)
  | _, false => (Icon.stop, Caption.stop)
  | _, true => (Icon.stopSelected, Caption.stopSelected)

/-- The button to tune, to pause or resume, or to stop the print. -/
def printButton (c : Canvas) (index : Nat) (selected paused : Bool) : Drawing :=
  let (x, x1) := printButtonEnds index
  let (icon, text) := printButtonPictures index selected paused
  [.fill .black ⟨x, 191, x1, 251⟩, pictogram icon x 191, c.caption text x 225] ++
  if selected then [.outline .white ⟨x, 191, x1, 251⟩] else []

/-- The parts of the print screen that stay, and its buttons. -/
def printScreen (c : Canvas) (file : String) (selected : Nat) (paused : Bool) : Drawing :=
  c.frame Caption.printingTitle ++
  [c.centred menuText 40 (Text.cutString fileNameRoom file),
    pictogram Icon.printTime 117 77,
    pictogram Icon.remainingTime 117 138,
    .line .line 15 185 (c.width - 15) 185] ++
  (List.range 3).flatMap fun index => c.printButton index (index == selected) paused

/-- A time in hours, at most 99, and minutes. -/
def hoursAndMinutes (_ : Canvas) (y : Int) (seconds : Nat) : Drawing :=
  [.int menuText 2 160 y (min (seconds / 3600) 99 : Nat),
    .text menuText 183 y ":",
    .int menuText 2 190 y (seconds % 3600 / 60 : Nat)]

/-- The progress of a print: its ring, the time spent and, once there is progress, the time
left. -/
def progress (c : Canvas) (p : Progress) : Drawing :=
  .icon animations (Animation.progress + p.percent) 12 75 :: c.hoursAndMinutes 100 p.elapsed ++
  if p.permille = 0 then [] else c.hoursAndMinutes 166 p.remaining

/-- The end of a print: an empty ring and a button over the print buttons. -/
def printFinished (c : Canvas) : Drawing :=
  c.clearTitle ++ c.titleCaption Caption.finishedTitle ++
  [.icon animations Animation.progress 12 75,
    .fill .black ⟨0, 185, c.width - 1, statusTop⟩,
    c.caption Caption.confirmButton 86 203,
    .outline .white ⟨86, 203, 166, 203 + buttonHeight⟩]

end PrinterPanel.Display.Canvas
