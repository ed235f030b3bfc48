import PrinterPanel.Panel.Act

/-!
# Keys during a print, on popups and while probing
-/

namespace PrinterPanel.Act

/-- Buttons of the print screen: tune, pause, stop. -/
def printButtonCount : Nat := 3

/-- Ask whether to pause or to stop; the cursor begins on the way out. -/
def ask (action : PrintAction) : Act Unit := do
  change fun p =>
    { p with
      print := { p.print with action := some action }
      places := { p.places with confirm := ⟨1⟩ } }
  goTo .printWindow

/-- Press one of the buttons of the print screen. -/
def pressPrintButton (button : Nat) : Act Unit := do
  match button with
  | 0 =>
    change fun p => { p with places := p.places.rewind .tune }
    goTo .tune
  | 1 =>
    if (← panel).print.paused then
      send .resume
      change fun p => { p with print := { p.print with paused := false } }
      draw ((← panel).canvas.printButton 1 true false)
    else ask .pause
  | _ => ask .stop

/-- A key on the print screen. When the print is finished, a press leaves it. -/
def printProcess (s : Symbol) : Act Unit := do
  let p ← panel
  if p.print.completionShown then
    if s = .enter then
      change fun p =>
        { p with print := .fresh, places := { p.places with page := .first } }
      goTo .mainMenu
  else if s.isTurn then
    let button := p.places.print.step s.isCw printButtonCount
    if button ≠ p.places.print then
      change fun p => { p with places := { p.places with print := button } }
      draw (p.canvas.printButton p.places.print.position false p.print.paused ++
        p.canvas.printButton button.position true p.print.paused)
  else if s = .enter then pressPrintButton p.places.print.position

/-- Move between the answers to a question. -/
def turnAnswer (s : Symbol) : Act Unit := do
  let p ← panel
  let answer := p.places.confirm.step s.isCw 2
  if answer ≠ p.places.confirm then
    change fun p => { p with places := { p.places with confirm := answer } }
    draw (p.canvas.confirmOrCancel s.isCcw)

/-- Give the answer to a question. -/
def giveAnswer : Act Unit := do
  let p ← panel
  change fun p =>
    { p with print := { p.print with action := none }, screen := .printProcess }
  match p.places.confirm.position, p.print.action with
  | 0, some .pause =>
    send .pause
    change fun p => { p with print := { p.print with paused := true } }
    goTo .printProcess
  | 0, some .stop =>
    send .cancel
    change fun p => { p with print := .fresh, places := { p.places with page := .first } }
    goTo .mainMenu
  | _, _ => goTo .printProcess

/-- A key while a question is asked. -/
def printWindow (s : Symbol) : Act Unit :=
  if s.isTurn then turnAnswer s else if s = .enter then giveAnswer else pure ()

/-- A key on the notice that a function is missing. -/
def featureNotAvailable (s : Symbol) : Act Unit := do
  if s = .enter then
    let caller := (← panel).popupCaller
    change ({ · with popupCaller := none })
    goTo (caller.getD .mainMenu)

/-- A key on the notice that the hotend is too cold. -/
def tooCold (s : Symbol) : Act Unit :=
  if s = .enter then goTo .axisMove else pure ()

/-- The screen that a message gives way to. -/
def messageReturn (caller : Option Screen) : Screen :=
  match caller with
  | some s => if s.acceptsReturn then s else .mainMenu
  | none => .mainMenu

/-- A key on a message. -/
def messagePopup (s : Symbol) : Act Unit := do
  if s = .enter then
    let caller := (← panel).popupCaller
    change ({ · with popupCaller := none })
    goTo (messageReturn caller)

/-- Pictograms in the browser for them. -/
def iconCount : Nat := 255

/-- A key in the browser for pictograms. -/
def iconFinder (s : Symbol) : Act Unit := do
  if s.isTurn then
    let p ← panel
    let icon := p.places.icon.step s.isCw iconCount
    if icon ≠ p.places.icon then
      change fun p => { p with places := { p.places with icon := icon } }
      let p ← panel
      draw (p.canvas.iconPage p.shownIcon)
  else if s = .enter then goTo .mainMenu

/-- The step sizes of probing by hand (µm). -/
def probeSteps : List Int := [1000, 100, 50]

/-- Whole millimetres at or below a height. -/
def floorMm (um : Int) : Int := um / 1000

/-- Whole millimetres at or above a height. -/
def ceilMm (um : Int) : Int := -(-um / 1000)

/-- Move the nozzle, unless it would leave the travel of its axis, and show whether it did. -/
def moveProbe (allowed : Bool) (um : Int) : Act Unit := do
  if allowed then send (.probeAdjust um)
  change fun p => { p with probe := { p.probe with outOfRange := !allowed } }
  draw ((← panel).probePicture false)

/-- A key while the bed is probed by hand. Clockwise is down. -/
def manualProbe (s : Symbol) : Act Unit := do
  let um := (← report).probe.getD 0
  let p ← panel
  let step := probeSteps.getD (p.probe.step % probeSteps.length) 0
  let travel := p.settings.limits.z
  match s with
  | .cw | .fastCw => moveProbe (travel.min < floorMm (um - step)) (-step)
  | .ccw | .fastCcw => moveProbe (ceilMm (um + step) < travel.max) step
  | .enter =>
    change fun p => { p with probe := ⟨(p.probe.step + 1) % probeSteps.length, false⟩ }
    draw ((← panel).probePicture false)
  | .longEnter =>
    send .probeAccept
    change ({ · with probe := .fresh })
    goTo .mainMenu
  | .idle => pure ()

/-- Do what accepting an edit does. -/
def takeEffect : EditEffect → Act Unit
  | .command c => send c
  | .preset m field value =>
    change fun p =>
      { p with
        settings :=
          { p.settings with presets := p.settings.presets.update m (·.store field value) } }

/-- Accept an edit: leave it, show its value as settled, and do what it is for. -/
def acceptEdit (e : Edit) : Act Unit := do
  change ({ · with edit := none, screen := e.returnTo, rateLimited := true })
  draw ((← panel).canvas.figure e.row ⟨e.field.decimals, e.value⟩ false)
  takeEffect e.effect

/-- A key while a value is edited. -/
def valueEdit (s : Symbol) : Act Unit := do
  let p ← panel
  match p.edit with
  | none => goTo .mainMenu
  | some e =>
    if s = .enter then acceptEdit e
    else
      let (changed, turned) := e.apply s
      if changed then
        change ({ · with edit := some turned })
        draw (p.canvas.figure e.row ⟨e.field.decimals, turned.value⟩ true)

end PrinterPanel.Act
