import SketchGrader.Number.Double
import SketchGrader.Sketch.Fault

/-!
# The board

A board has a fixed set of usable pins, each with a direction, a digital level and a pulse width. A
set of pins is listed in ascending order, each pin once. Percentages, raw timer duties and pulse
widths are converted into each other by a division, a multiplication and a rounding, and each of the
three steps is rounded to a double.

A set may have any number of pins, and a pin may be any integer: the limit on digits that holds for
reading a numeral does not hold for writing one, so `PinSet.render` and `Board.rangeText` write out
every pin of every set.
-/

namespace SketchGrader

/-! ## Sets of pins -/

namespace PinSet

/-- Puts a pin into its place unless it is there. -/
def insert (pin : Int) : List Int → List Int
  | [] => [pin]
  | p :: rest =>
    if pin < p then pin :: p :: rest
    else if pin = p then p :: rest
    else p :: insert pin rest

def ofList (pins : List Int) : List Int := pins.foldr insert []

/-- The pins of the first set that are not in the second. -/
def diff (a b : List Int) : List Int := a.filter fun pin => !b.contains pin

def render (pins : List Int) : String := ", ".intercalate (pins.map toString)

end PinSet

/-! ## Scaling duties -/

namespace Scale

/-- The double nearest to a number, where one is needed. -/
def double (tooLarge : Breakdown) (q : Rat) : Except Breakdown Rat :=
  match Double.nearest? q with
  | some x => .ok x
  | none => .error tooLarge

/-- The integer nearest to a double, a half away from zero. The half is added as a double. -/
def roundHalfUp (x : Rat) : Except Breakdown Int := do
  if 0 ≤ x then return truncate (← double .infiniteResult (x + 1 / 2))
  else return -truncate (← double .infiniteResult (-x + 1 / 2))

/-- The number `value / whole * full`, rounded to an integer. -/
def convert (value : Rat) (whole full : Nat) : Except Breakdown Int := do
  let ratio ← double .quotientTooLarge (value / whole)
  let scaled ← double .infiniteResult (ratio * full)
  roundHalfUp scaled

def percentToPwm (percent : Int) : Except Breakdown Int := convert percent 100 255

def pwmToPercent (pwm : Int) : Except Breakdown Int := convert pwm 255 100

end Scale

/-! ## Pins and boards -/

structure PinState where
  direction : Direction := .unset
  level : Bool := false
  pwm : Int := 0
  duty : Int := 0
  deriving DecidableEq, Repr

namespace PinState

/-- A pin is on while a pulse width drives it, whatever its digital level. -/
def isOn (s : PinState) : Bool := decide (0 < s.pwm) || s.level

/-- What an observer sees of a pin: whether it is on, and the duty while a pulse width drives it. -/
def appearance (s : PinState) : Bool × Option Int :=
  (s.isOn, if 0 < s.pwm then some s.duty else none)

/-- Drives a pin with a pulse width, kept within 0 and 255, that shows as the given duty. -/
def drive (s : PinState) (pwm duty : Int) : PinState :=
  { s with pwm := max 0 (min 255 pwm), duty := duty }

/-- Drives a pin with a pulse width, with the duty that belongs to it. -/
def drivePwm (s : PinState) (pwm : Int) : Except Breakdown PinState := do
  return s.drive pwm (← Scale.pwmToPercent (max 0 (min 255 pwm)))

end PinState

/-- The usable pins in ascending order, each with its state. -/
structure Board where
  pins : List (Int × PinState)
  deriving DecidableEq, Repr

namespace Board

def ofPins (usable : List Int) : Board := ⟨(PinSet.ofList usable).map (·, {})⟩

def usable (b : Board) : List Int := b.pins.map (·.1)

def get? (b : Board) (pin : Int) : Option PinState :=
  (b.pins.find? fun entry => entry.1 == pin).map (·.2)

def isUsable (b : Board) (pin : Int) : Bool := (b.get? pin).isSome

/-- Gives a pin a new state; a pin that is not usable changes nothing. -/
def set (b : Board) (pin : Int) (state : PinState) : Board :=
  ⟨b.pins.map fun entry => if entry.1 = pin then (pin, state) else entry⟩

def reset (b : Board) : Board := ⟨b.pins.map fun entry => (entry.1, {})⟩

/-- The usable pins with whether they are on. -/
def lights (b : Board) : List (Int × Bool) := b.pins.map fun entry => (entry.1, entry.2.isOn)

/-- The usable pins in words: first and last if there is no gap, otherwise all of them. -/
def rangeText (b : Board) : Except Breakdown String :=
  match b.usable.head?, b.usable.getLast? with
  | some first, some last =>
    if last - first + 1 = b.usable.length then .ok s!"{first}-{last}"
    else .ok (PinSet.render b.usable)
  | _, _ => .error .noPins

end Board

end SketchGrader
