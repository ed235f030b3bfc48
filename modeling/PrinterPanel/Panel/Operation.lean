import PrinterPanel.Panel.ListMenus
import PrinterPanel.Panel.Printing

/-!
# Operations of the panel

The outside works the panel by keys or by samples of the knob, by messages, and by a tick once in
a second. Each operation runs to its end. A tick follows the printer: it goes to the screen that
the job or the probing demands, keeps the screen up to date and passes on messages.
-/

namespace PrinterPanel

namespace Act

/-- What a key does on a screen. -/
def handle : Screen → Symbol → Act Unit
  | .mainMenu => mainMenu
  | .selectFile => listKey .files enterFiles
  | .prepare => listKey .prepare enterPrepare
  | .control => listKey .control enterControl
  | .misc => listKey .misc enterMisc
  | .printProcess => printProcess
  | .axisMove => listKey .axes enterAxes
  | .temperature => listKey .temperature enterTemperature
  | .motion => listKey .motion enterMotion
  | .info => info
  | .tune => listKey .tune enterTune
  | .plaPreheat => listKey (.preset .pla) (enterPreset .pla)
  | .tpuPreheat => listKey (.preset .tpu) (enterPreset .tpu)
  | .maxSpeed | .maxSpeedValue | .maxAcceleration | .maxAccelerationValue | .maxJerk
  | .maxJerkValue | .step | .stepValue => motionEditor
  | .featureNotAvailable => featureNotAvailable
  | .homing => fun _ => pure ()
  | .moveX | .moveY | .moveZ | .extruder | .hotendTemp | .zOffset | .bedTemp | .fanSpeed
  | .printSpeed => valueEdit
  | .printWindow => printWindow
  | .tooCold => tooCold
  | .manualProbe => manualProbe
  | .messagePopup => messagePopup
  | .iconFinder => iconFinder

/-- The user is at work: start to count idle ticks again, and light the display. -/
def wake : Act Unit := do
  let p ← panel
  change ({ · with idleTicks := 0, dimmed := false })
  if p.dimmed then drawIfPossible [.light p.settings.screen.brightness]

/-- Take the symbol that waits and let the screen handle it. -/
def dispatch : Act Unit := do
  let p ← panel
  let (symbol, latch) := p.latch.take
  change ({ · with latch := latch })
  if symbol ≠ .idle then recovering (handle p.screen symbol)

/-- A key. -/
def key (k : Key) : Act Unit := do
  change fun p =>
    let symbol := Symbol.ofKey k
    { p with latch := p.latch.put (if p.rateLimited then symbol.slowed else symbol) }
  wake
  dispatch

/-- A key, if the knob made one. -/
def keyOfKnob (decode : Knob → Option Key × Knob) : Act Unit := do
  let (k, knob) := decode (← panel).knob
  change ({ · with knob := knob })
  if let some k := k then key k

/-- Light the display and draw the main menu. -/
def start : Act Unit := recovering do
  draw [.light (← panel).settings.screen.brightness]
  goTo .mainMenu

/-- Open the browser for pictograms. -/
def openIconFinder : Act Unit := do
  change fun p =>
    let p := p.abandonEdit
    { p with places := { p.places with icon := .first } }
  recovering (goTo .iconFinder)

/-- Go to the screen that a change of the printer demands, whatever the user does. An edit is put
away and a waiting symbol is dropped. -/
def force (d : Demand) : Act Unit := do
  let editing := (← panel).edit.isSome
  change fun p => { p.abandonEdit with latch := .empty, popupCaller := none }
  let p ← panel
  let next := p.screen.after d
  if next ≠ p.screen ∨ editing then goTo next

/-- The message for a printer that is in error without saying why. -/
def unknownError : String := "Printer error"

/-- Go to the screen that a change of the job demands. -/
def followJob (s : Status) : Act Unit := do
  let last := (← panel).lastJob
  change ({ · with lastJob := s.job })
  if s.job ≠ last then
    match s.job with
    | .printing =>
      if last ≠ .paused then
        change fun p => { p with print := .fresh, places := { p.places with print := .first } }
        force .printStarted
    | .paused => pure ()
    | .standby | .complete | .cancelled =>
      change ({ · with print := .fresh })
      force .jobEnded
    | .error =>
      showMessage (if Text.allBlank s.errorMessage.toList then unknownError else s.errorMessage)

/-- Enter or leave probing by hand with the printer, or show its height. The result tells whether
probing was entered. -/
def followProbe (s : Status) : Act Bool := do
  let probing := (← panel).screen == .manualProbe
  match s.probe.isSome, probing with
  | true, false =>
    change ({ · with probe := .fresh })
    force .probeStarted
    return true
  | false, true =>
    change ({ · with probe := .fresh })
    force .probeEnded
    return false
  | true, true =>
    draw ((← panel).probePicture false)
    return false
  | false, false => return false

/-- Keep the print screen up to date: the notice of the finished print, the button to pause, and
the progress. -/
def refreshPrint (s : Status) : Act Unit := do
  let before := (← panel).print
  let finished := s.progress.isFinished
  change fun p => { p with print := { p.print with finished := finished } }
  if finished && !before.finished then
    change fun p => { p with print := { p.print with completionShown := true } }
    draw (← panel).canvas.printFinished
  else if !before.completionShown then
    if s.isPaused ≠ before.paused then
      change fun p => { p with print := { p.print with paused := s.isPaused } }
      let p ← panel
      draw (p.canvas.printButton 1 (p.places.print.position == 1) s.isPaused)
    draw ((← panel).canvas.progress s.progress)

/-- Go back to the prepare menu when homing, asked for there, is complete. -/
def followHoming (s : Status) : Act Unit := do
  let p ← panel
  match p.homing with
  | none => pure ()
  | some request =>
    if s.homed.all then
      change ({ · with homing := none })
      if p.screen = .homing then
        change fun p => { p with places := p.places.select .prepare request.position }
        goTo (p.screen.after .homingComplete)

/-- Keep the status area up to date, on the screens that show it. -/
def refreshStatus (s : Status) (previous : Option Status) : Act Unit := do
  let p ← panel
  if p.screen.showsStatus && previous.all (·.areaDiffers s) then
    draw (p.canvas.statusArea s)

/-- Show a message of the printer, once. -/
def followMessage (s : Status) : Act Unit := do
  if s.message ≠ (← panel).lastMessage then
    change ({ · with lastMessage := s.message })
    showMessage s.message

/-- Bring the panel in line with a report of the printer. -/
def reconcile (s : Status) (previous : Option Status) : Act Unit := do
  followJob s
  let probeEntered ← followProbe s
  if (← panel).screen = .printProcess then refreshPrint s
  followHoming s
  if !probeEntered then refreshStatus s previous
  followMessage s

/-- Count an idle tick, up to the limit of a counter, and dim the display when there were enough of
them. -/
def countIdleTick : Act Unit := do
  change fun p => { p with idleTicks := min (p.idleTicks + 1) Bounds.counterLimit }
  let p ← panel
  let timeout := p.settings.screen.dimTicks
  if !p.dimmed && timeout ≠ 0 && timeout ≤ p.idleTicks then
    change ({ · with dimmed := true })
    drawIfPossible [.light p.settings.screen.dimBrightness]

/-- Look at the knob and at the printer. Without a report of the printer nothing more is done. -/
def tick (now : Nat) : Act Unit := do
  keyOfKnob (·.poll now)
  match ← look with
  | none => pure ()
  | some s =>
    let previous := (← panel).lastStatus
    change ({ · with lastStatus := some s })
    recovering (reconcile s previous)
    countIdleTick

end Act

/-- What the outside does with the panel. Times are in milliseconds. -/
inductive Operation where
  /-- Switch the display on. -/
  | start
  /-- Deliver a key. -/
  | key (k : Key)
  /-- Turn the knob by one detent. -/
  | rotate (r : Rotation) (now : Nat)
  /-- Deliver a sample of the phases of the knob. -/
  | sample (a b : Bool) (now : Nat)
  /-- Press or release the button of the knob. -/
  | button (down : Bool) (now : Nat)
  /-- Look whether the button is held for long. -/
  | poll (now : Nat)
  /-- Look at the knob and at the printer. -/
  | tick (now : Nat)
  /-- Show a message. -/
  | message (text : String)
  /-- Open the browser for pictograms. -/
  | iconFinder
  deriving DecidableEq, Repr

namespace Operation

/-- The steps of an operation. -/
def act : Operation → Act Unit
  | start => Act.start
  | key k => Act.key k
  | rotate r now => Act.keyOfKnob fun k => let turned := k.rotate r now; (some turned.1, turned.2)
  | sample a b now => Act.keyOfKnob (·.sample a b now)
  | button down now => Act.keyOfKnob (·.button down now)
  | poll now => Act.keyOfKnob (·.poll now)
  | tick now => Act.tick now
  | message text => Act.showMessage text
  | iconFinder => Act.openIconFinder

end Operation

/-- Do an operation. The scene at its end holds the panel and the events. -/
def Panel.perform (p : Panel) (op : Operation) (answers : Answers) : Scene :=
  match (op.act answers).run (.opening p) with
  | .ok _ s => s
  | .error _ s => s

/-- Do one operation after the other, each with the answers that it gets, and collect the
events. -/
def Panel.run (p : Panel) : List (Operation × Answers) → Panel × List Event
  | [] => (p, [])
  | (op, answers) :: rest =>
    let scene := p.perform op answers
    let later := scene.panel.run rest
    (later.1, scene.events ++ later.2)

end PrinterPanel
