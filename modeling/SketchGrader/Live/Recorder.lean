import SketchGrader.Timeline.Event

/-!
# The recorder

A recorder stamps the events of a live run with the time since it was started. Time comes from a
clock that is read and moved explicitly; a clock with a tick moves by it at every reading.
-/

namespace SketchGrader

/-- A clock in milliseconds. -/
structure Clock where
  now : Int := 0
  tick : Int := 0
  deriving DecidableEq, Repr

namespace Clock

/-- The time shown, and the clock after it has been read. -/
def read (c : Clock) : Int × Clock := (c.now, { c with now := c.now + c.tick })

def advance (c : Clock) (ms : Int) : Clock := { c with now := c.now + ms }

end Clock

/-- The events recorded so far, in the order of recording. -/
structure Recorder where
  events : List Event := []
  startedAt : Option Int := none
  isRecording : Bool := false
  deriving DecidableEq, Repr

namespace Recorder

/-- Forgets all events and begins to record from the time on the clock. -/
def start (_ : Recorder) (clock : Clock) : Recorder × Clock :=
  (⟨[], some clock.read.1, true⟩, clock.read.2)

def stop (r : Recorder) : Recorder := { r with isRecording := false }

/-- Forgets the events and the time of the start. -/
def clear (r : Recorder) : Recorder := { r with events := [], startedAt := none }

/-- The time since the start, 0 if there was none; the clock is read only if there was one. -/
def elapsed (r : Recorder) (clock : Clock) : Int × Clock :=
  match r.startedAt with
  | none => (0, clock)
  | some start => (clock.read.1 - start, clock.read.2)

/-- Keeps an event with the time since the start, while recording. -/
def record (r : Recorder) (clock : Clock) (event : Event) : Option Event × Recorder × Clock :=
  if r.isRecording then
    let (time, clock) := r.elapsed clock
    let stamped := event.shift (time - event.time)
    (some stamped, { r with events := r.events ++ [stamped] }, clock)
  else (none, r, clock)

/-- The recorded events ordered by time; events of one time keep their order. -/
def sequence (r : Recorder) : Sequence :=
  let ordered := r.events.mergeSort fun a b => decide (a.time ≤ b.time)
  ⟨ordered, (ordered.getLast?.map (·.time)).getD 0, false⟩

end Recorder

end SketchGrader
