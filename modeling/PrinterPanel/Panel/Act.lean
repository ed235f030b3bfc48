import PrinterPanel.Panel.Picture
import PrinterPanel.Printer.Command

/-!
# Acting on the display and the printer

An operation changes the panel, draws, sends commands and reads the printer. What display and
printer answer is given beforehand, as a function of the number of the question; a display call
that fails or a command that is declined ends the step that made it. The events of an operation
are kept in order: the calls that were drawn, and the commands that were sent.
-/

namespace PrinterPanel

/-- What display and printer answer during one operation. -/
structure Answers where
  /-- The failure of the n-th display call, if it fails. -/
  display : Nat → Option Display.Failure
  /-- How the n-th command is declined, if it is. -/
  command : Nat → Option Refusal
  /-- The report that the n-th look at the printer gives, if it gives one. -/
  status : Nat → Option Status
  /-- The paths that the printer lists, if it does. -/
  files : Option (List String)

/-- Why a step ended early. -/
inductive Fault where
  /-- A display call failed. -/
  | display (f : Display.Failure)
  /-- The printer declined a command. -/
  | refused (r : Refusal)
  deriving DecidableEq, Repr

/-- The text for a fault. -/
def Fault.message : Fault → String
  | display f => "display: " ++ f.message
  | refused r => "command: " ++ r.message

/-- What an operation lets the outside see. -/
inductive Event where
  /-- The display took a call. -/
  | drawn (call : Display.Call)
  /-- A command was sent, and accepted or not. -/
  | sent (command : Command) (accepted : Bool)
  deriving DecidableEq, Repr

/-- The state within an operation. -/
structure Scene where
  /-- The panel so far. -/
  panel : Panel
  /-- The events so far. -/
  events : List Event
  /-- Display calls made so far. -/
  displayCalls : Nat
  /-- Commands sent so far. -/
  commands : Nat
  /-- Looks at the printer so far. -/
  looks : Nat

/-- The scene at the start of an operation. -/
def Scene.opening (p : Panel) : Scene := ⟨p, [], 0, 0, 0⟩

/-- A step of an operation: it sees the answers, changes the scene, and may end with a fault. What
was done before a fault stays done. -/
abbrev Act := ReaderT Answers (EStateM Fault Scene)

namespace Act

/-- The panel as it is now. -/
def panel : Act Panel := do return (← get).panel

/-- Change the panel. -/
def change (f : Panel → Panel) : Act Unit :=
  modify fun s => { s with panel := f s.panel }

/-- Make one display call. -/
def call (c : Display.Call) : Act Unit := do
  let answers ← read
  let s ← get
  match answers.display s.displayCalls with
  | none =>
    set { s with displayCalls := s.displayCalls + 1, events := s.events ++ [Event.drawn c] }
  | some failure =>
    set { s with displayCalls := s.displayCalls + 1 }
    throw (.display failure)

/-- Make the display calls of a drawing, up to the first that fails. -/
def draw : Display.Drawing → Act Unit
  | [] => pure ()
  | c :: rest => do
    call c
    draw rest

/-- Send a command to the printer. -/
def send (c : Command) : Act Unit := do
  let answers ← read
  let s ← get
  match answers.command s.commands with
  | none => set { s with commands := s.commands + 1, events := s.events ++ [Event.sent c true] }
  | some refusal =>
    set { s with commands := s.commands + 1, events := s.events ++ [Event.sent c false] }
    throw (.refused refusal)

/-- Look at the printer. -/
def look : Act (Option Status) := do
  let answers ← read
  let s ← get
  set { s with looks := s.looks + 1 }
  return answers.status s.looks

/-- The report that a look at the printer gives, or the one of the last tick. -/
def report : Act Status := do
  match ← look with
  | some s => return s
  | none => return (← panel).lastStatus.getD .atRest

/-- The paths that the printer lists. -/
def listFiles : Act (Option (List String)) := do return (← read).files

/-- Draw, and go on if a call fails. -/
def drawIfPossible (d : Display.Drawing) : Act Unit :=
  tryCatch (draw d) fun _ => pure ()

/-- Go to a screen and draw it from nothing. -/
def goTo (s : Screen) : Act Unit := do
  change ({ · with screen := s })
  draw ((← panel).picture s)

/-- Show a message with a button. A message without text is ignored. The screen below is
remembered, unless that is a message, too. -/
def showMessage (text : String) : Act Unit := do
  if Text.allBlank text.toList then return
  change (·.abandonEdit)
  change fun p =>
    { p with
      popupCaller := if p.screen = .messagePopup then p.popupCaller else some p.screen
      screen := .messagePopup }
  drawIfPossible ((← panel).canvas.messageBox text)

/-- What becomes of a fault: a declined command is shown as a message, and a failed display call
is passed over. -/
def recover : Fault → Act Unit
  | .display _ => pure ()
  | .refused r => showMessage ("Error: " ++ r.message)

/-- Do a step and recover from its fault. -/
def recovering (act : Act Unit) : Act Unit :=
  tryCatch act recover

/-- Begin to edit a value in its menu row. -/
def beginEdit (field : Field) (initial : Int) (returnTo : Screen) (row : Nat) : Act Unit := do
  change fun p =>
    { p with
      edit := some (.start field initial p.settings.limits returnTo row)
      rateLimited := false
      screen := field.screen }
  draw ((← panel).canvas.figure row ⟨field.decimals, initial⟩ true)

end Act

end PrinterPanel
