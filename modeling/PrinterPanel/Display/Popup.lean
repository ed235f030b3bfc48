import PrinterPanel.Display.PrintScreen
import PrinterPanel.Text.Wrap

/-!
# Popups

Notices, questions and messages over the list area.
-/

namespace PrinterPanel.Display.Canvas

/-- The box of notices and questions. -/
def noticeBox : Rect := ⟨15, titleHeight + 50, 225, 195⟩

/-- The button to confirm and the one to cancel; the chosen one is bright. -/
def confirmOrCancel (c : Canvas) (confirm : Bool) : Drawing :=
  let (first, second) : Color × Color := if confirm then (.white, .popup) else (.popup, .white)
  [.fill first ⟨28, 152, 113, 187⟩,
    .fill second ⟨128, 152, 213, 187⟩,
    c.caption Caption.confirmButton 30 (titleHeight + 130),
    c.caption Caption.cancelButton 130 (titleHeight + 130)]

/-- The question whether to stop or to pause the print. -/
def pauseOrStop (c : Canvas) (stop confirm : Bool) : Drawing :=
  c.clearMain ++
  [c.caption (if stop then Caption.stopQuestion else Caption.pauseQuestion) 15 (titleHeight + 50),
    .outline .white noticeBox] ++
  c.confirmOrCancel confirm

/-- The button that closes a box. -/
def okButton (c : Canvas) (y : Int) : Drawing :=
  [c.caption Caption.confirmButton 80 y, .outline .white ⟨80, y, 160, y + buttonHeight⟩]

/-- The notice while the axes are homed. -/
def homingNotice (c : Canvas) : Drawing :=
  c.clearMain ++ [c.caption Caption.homing 18 (titleHeight + 60)]

/-- The notice that the hotend is too cold to extrude. -/
def tooColdNotice (c : Canvas) : Drawing :=
  c.clearMain ++
  [.fill .popup noticeBox,
    c.caption Caption.hotendTooCold 15 (titleHeight + 50),
    .outline .white noticeBox] ++
  c.okButton 154

/-- The notice that a function is missing. -/
def notAvailableNotice (c : Canvas) : Drawing :=
  [.fill .popup noticeBox,
    .outline .white noticeBox,
    .text popupText 20 (titleHeight + 55) "Feature not available on",
    .text popupText 20 (titleHeight + 75) "the screen yet, please",
    .text popupText 20 (titleHeight + 95) "use the host interface."] ++
  c.okButton 154

/-- Space around the text of a message. -/
def padding : Int := 15

/-- Distance of the lines of a message. -/
def lineHeight : Int := 18

/-- Characters that fit a line of a message. -/
def messageColumns (c : Canvas) : Nat := (c.width - 60) / 8

/-- Height of the box for so many lines. -/
def messageBoxHeight (lines : Nat) : Int := lineHeight * lines + buttonHeight + padding * 3

/-- Upper end of the box for so many lines: it is centred below the title bar. -/
def messageBoxTop (c : Canvas) (lines : Nat) : Int :=
  max 0 (((c.height - 24) / 2 + 24 : Nat) - messageBoxHeight lines / 2)

/-- A message, broken into lines, with a button below it. -/
def messageBox (c : Canvas) (message : String) : Drawing :=
  let lines := Text.wrap message.toList c.messageColumns
  let top := c.messageBoxTop lines.length
  let area : Rect := ⟨padding, top, c.width - padding, top + messageBoxHeight lines.length⟩
  [.fill .popup area, .outline .white area] ++
  (lines.mapIdx fun i line =>
    .text popupText (padding * 2) (top + padding + lineHeight * i) (String.ofList line)) ++
  c.okButton (top + padding + lineHeight * lines.length + padding)

end PrinterPanel.Display.Canvas
