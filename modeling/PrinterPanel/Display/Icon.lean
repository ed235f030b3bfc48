/-!
# Pictures of the panel

The panel stores its pictures in libraries. Pictograms and animations have a library each, and so
has the menu text of each language.
-/

namespace PrinterPanel.Display

/-- The library of pictograms. -/
def pictograms : Nat := 0

/-- The library of animations. -/
def animations : Nat := 27

/-! ### Pictograms -/
namespace Icon

def print : Nat := 1
def printSelected : Nat := 2
def prepare : Nat := 3
def prepareSelected : Nat := 4
def control : Nat := 5
def controlSelected : Nat := 6
def leveling : Nat := 7
def levelingSelected : Nat := 8
def hotend : Nat := 9
def bed : Nat := 10
def speed : Nat := 11
def zOffset : Nat := 12
def back : Nat := 13
def file : Nat := 14
def printTime : Nat := 15
def remainingTime : Nat := 16
def tune : Nat := 17
def tuneSelected : Nat := 18
def pause : Nat := 19
def pauseSelected : Nat := 20
def resume : Nat := 21
def resumeSelected : Nat := 22
def stop : Nat := 23
def stopSelected : Nat := 24
def folder : Nat := 26
def axes : Nat := 27
def motorsOff : Nat := 28
def home : Nat := 29
def setHome : Nat := 30
def preheatPla : Nat := 31
def preheatTpu : Nat := 32
def cooldown : Nat := 33
def moveX : Nat := 35
def moveY : Nat := 36
def moveZ : Nat := 37
def extrude : Nat := 38
def temperature : Nat := 40
def motion : Nat := 41
def save : Nat := 42
def info : Nat := 45
def setHotend : Nat := 46
def setBed : Nat := 47
def fan : Nat := 48
def plaSettings : Nat := 49
def tpuSettings : Nat := 50
def maxSpeed : Nat := 51
def maxAcceleration : Nat := 52
def maxJerk : Nat := 53
def steps : Nat := 54
def bedSize : Nat := 55
def version : Nat := 56
def contact : Nat := 57
def flow : Nat := 62

end Icon

/-! ### Animations -/
namespace Animation

def hotendHeating : Nat := 110
def bedHeating : Nat := 125

/-- The ring for nothing printed; the rings for each percent follow it. -/
def progress : Nat := 145

end Animation

/-! ### Pictures of text, the same in the library of each language -/
namespace Caption

def mainMenu : Nat := 1
def print : Nat := 2
def prepare : Nat := 3
def control : Nat := 4
def info : Nat := 5
def stop : Nat := 6
def pause : Nat := 7
def printSelected : Nat := 8
def prepareSelected : Nat := 9
def controlSelected : Nat := 10
def infoSelected : Nat := 11
def stopSelected : Nat := 12
def pauseSelected : Nat := 13
def tuneTitle : Nat := 17
def printingTitle : Nat := 20
def back : Nat := 21
def fileTitle : Nat := 26
def motionTitle : Nat := 33
def moveTitle : Nat := 39
def prepareTitle : Nat := 40
def temperatureTitle : Nat := 49
def infoTitle : Nat := 61
def plaTitle : Nat := 62
def tpuTitle : Nat := 64
def hotendTooCold : Nat := 69
def cancelButton : Nat := 72
def confirmButton : Nat := 73
def pauseQuestion : Nat := 76
def stopQuestion : Nat := 77
def tune : Nat := 78
def tuneSelected : Nat := 79
def controlTitle : Nat := 80
def finishedTitle : Nat := 81
def homing : Nat := 84
def levelingTitle : Nat := 85

end Caption

end PrinterPanel.Display
