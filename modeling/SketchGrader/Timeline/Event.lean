import SketchGrader.Board.Pin
import SketchGrader.Sketch.Program
import SketchGrader.Sketch.Statement

/-!
# Events and sequences

An event is a visible change of a pin at a time in milliseconds. A sequence is the list of events
of one run with its duration. A write becomes an event only if the pin looks different from when it
last gave an event. The look is taken from the board and not from the statement. The first write to
a pin always gives one.
-/

namespace SketchGrader

inductive EventKind where
  | digital
  | pwm
  deriving DecidableEq, Repr

def EventKind.name : EventKind → String
  | digital => "digital"
  | pwm => "pwm"

structure Event where
  time : Int
  pin : Int
  isOn : Bool
  kind : EventKind
  origin : Body
  duty : Option Int := none
  deriving DecidableEq, Repr

/-- The event at a later or earlier time. -/
def Event.shift (e : Event) (offset : Int) : Event := { e with time := e.time + offset }

/-- The events of one run. -/
structure Sequence where
  events : List Event := []
  totalMs : Int := 0
  isLooping : Bool := false
  deriving DecidableEq, Repr

/-! ## Emission of events -/

def EventKind.ofStatement : Statement → EventKind
  | .digitalWrite .. => .digital
  | _ => .pwm

/-- How each pin looked when it last gave an event. -/
structure Emission where
  last : List (Int × (Bool × Option Int)) := []
  deriving DecidableEq, Repr

namespace Emission

def get? (e : Emission) (pin : Int) : Option (Bool × Option Int) :=
  (e.last.find? fun entry => entry.1 == pin).map (·.2)

def set (e : Emission) (pin : Int) (look : Bool × Option Int) : Emission :=
  ⟨(pin, look) :: e.last.filter fun entry => entry.1 != pin⟩

/-- The event that a pin gives at a time, if its look has changed, and the new memory. -/
def observe (e : Emission) (state : PinState) (pin : Int) (kind : EventKind) (origin : Body)
    (time : Int) : Option Event × Emission :=
  if e.get? pin = some state.appearance then (none, e)
  else
    let duty := if kind = .pwm then some state.duty else none
    (some ⟨time, pin, state.isOn, kind, origin, duty⟩, e.set pin state.appearance)

end Emission

end SketchGrader
