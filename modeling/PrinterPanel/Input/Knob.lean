import PrinterPanel.Input.Key
import PrinterPanel.Settings.Encoder

/-!
# Decoding of the knob

The knob has two phases that change in turn while it rotates, and a button. Phase samples become
detents, a detent that follows the last one of its direction closely is fast, and the button tells
clicks from long clicks. Times are in milliseconds from any fixed origin.
-/

namespace PrinterPanel

/-- The two directions of the knob. -/
inductive Rotation where
  | cw
  | ccw
  deriving DecidableEq, Repr, Inhabited

/-- What is remembered of the knob between its samples. -/
structure Knob where
  /-- Detents closer than this are fast (ms). -/
  fastRateMs : Nat
  /-- A press of this length is a long click (ms). -/
  longPressMs : Nat
  /-- Phase transitions in a detent, at least one. -/
  stepsPerDetent : Nat
  /-- The last sample of the two phases. -/
  phases : Bool × Bool
  /-- Clockwise less counter-clockwise transitions since the last detent. -/
  transitions : Int
  /-- Time of the last clockwise detent. -/
  lastCw : Option Nat
  /-- Time of the last counter-clockwise detent. -/
  lastCcw : Option Nat
  /-- Time since which the button is held. -/
  pressedAt : Option Nat
  /-- Whether the present press was reported as a long click. -/
  longClickSent : Bool
  deriving DecidableEq, Repr

namespace Knob

/-- A knob at rest with both phases low. -/
def ofSettings (s : EncoderSettings) : Knob where
  fastRateMs := s.fastRateMs
  longPressMs := s.longPressMs
  stepsPerDetent := max s.stepsPerDetent 1
  phases := (false, false)
  transitions := 0
  lastCw := none
  lastCcw := none
  pressedAt := none
  longClickSent := false

/-- The next sample when the knob turns clockwise. -/
def clockwiseNext : Bool × Bool → Bool × Bool
  | (false, false) => (true, false)
  | (true, false) => (true, true)
  | (true, true) => (false, true)
  | (false, true) => (false, false)

/-- The transition between two samples: 1 clockwise, -1 counter-clockwise, and 0 if both phases
changed or none. -/
def transition (before after : Bool × Bool) : Int :=
  if after = clockwiseNext before then 1
  else if before = clockwiseNext after then -1
  else 0

/-- The step count as it is compared with the transitions: a signed number of eight bits. -/
def threshold (k : Knob) : Int := (k.stepsPerDetent : Int).bmod 256

/-- The sum of transitions is kept in eight bits and stops at their ends. -/
def saturate (i : Int) : Int := max (-128) (min i 127)

/-- One detent: the key, which is fast if the last detent of its direction is recent. -/
def rotate (k : Knob) (r : Rotation) (now : Nat) : Key × Knob :=
  match r with
  | .cw =>
    (if k.lastCw.any (now - · < k.fastRateMs) then .fastDown else .down,
      { k with lastCw := some now })
  | .ccw =>
    (if k.lastCcw.any (now - · < k.fastRateMs) then .fastUp else .up,
      { k with lastCcw := some now })

/-- Take a sample of the phases. A key results once the transitions make up a detent. A sample in
which both phases changed has no direction; the count starts again. -/
def sample (k : Knob) (a b : Bool) (now : Nat) : Option Key × Knob :=
  if (a, b) = k.phases then (none, k)
  else
    let delta := transition k.phases (a, b)
    let k := { k with phases := (a, b) }
    if delta = 0 then (none, { k with transitions := 0 })
    else
      let sum := saturate (k.transitions + delta)
      if k.threshold ≤ sum then
        let turned := { k with transitions := 0 }.rotate .cw now
        (some turned.1, turned.2)
      else if sum ≤ -k.threshold then
        let turned := { k with transitions := 0 }.rotate .ccw now
        (some turned.1, turned.2)
      else (none, { k with transitions := sum })

/-- The button went down or up. Going up is a click, unless the press was a long click. -/
def button (k : Knob) (down : Bool) (now : Nat) : Option Key × Knob :=
  if down then (none, { k with pressedAt := some now, longClickSent := false })
  else
    (if k.pressedAt.isSome && !k.longClickSent then some .click else none,
      { k with pressedAt := none })

/-- Look at the clock: a press that has lasted long enough becomes a long click, once. -/
def poll (k : Knob) (now : Nat) : Option Key × Knob :=
  match k.pressedAt with
  | none => (none, k)
  | some since =>
    if !k.longClickSent && k.longPressMs ≤ now - since then
      (some .longClick, { k with longClickSent := true })
    else (none, k)

/-- Whether the button is held. -/
def isPressed (k : Knob) : Bool := k.pressedAt.isSome

end Knob

end PrinterPanel
