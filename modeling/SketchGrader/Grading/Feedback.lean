import SketchGrader.Board.Pin
import SketchGrader.Grading.Compare

/-!
# Feedback

What a learner is told about a comparison: a summary of both timelines, the events that come at the
wrong time, the pins that are missing or too many, and hints that follow from these.
-/

namespace SketchGrader

/-- A timeline in numbers. -/
structure Summary where
  totalEvents : Nat
  totalMs : Int
  pinsUsed : List Int
  digitalEvents : Nat
  pwmEvents : Nat
  isLooping : Bool
  deriving DecidableEq, Repr

def Summary.ofSequence (s : Sequence) : Summary where
  totalEvents := s.events.length
  totalMs := s.totalMs
  pinsUsed := PinSet.ofList (s.events.map (·.pin))
  digitalEvents := s.events.countP (·.kind == .digital)
  pwmEvents := s.events.countP (·.kind == .pwm)
  isLooping := s.isLooping

structure TimingIssue where
  index : Nat
  targetTime : Int
  playerTime : Int
  difference : Int
  deriving DecidableEq, Repr

structure Feedback where
  target : Summary
  candidate : Summary
  timingIssues : List TimingIssue
  averageDifference : Double
  missingPins : List Int
  extraPins : List Int
  suggestions : List String
  deriving DecidableEq, Repr

namespace Feedback

/-- The events of two lists whose times are further apart than the tolerance. -/
def issuesFrom (tolerance : Int) (index : Nat) : List Event → List Event → List TimingIssue
  | t :: ts, c :: cs =>
    let difference : Int := (t.time - c.time).natAbs
    let rest := issuesFrom tolerance (index + 1) ts cs
    if tolerance < difference then ⟨index, t.time, c.time, difference⟩ :: rest else rest
  | _, _ => []

/-- The average of the differences in time, 0 if there are none. -/
def average (issues : List TimingIssue) : Except Breakdown Double :=
  let total := (issues.map (·.difference)).foldl (· + ·) 0
  if issues.isEmpty then .ok ⟨false, 0, -1074⟩
  else
    match Double.ofRatio? false total.natAbs issues.length with
    | some x => .ok x
    | none => .error .quotientTooLarge

/-- What a learner is told about the timing. -/
def timingHint : String := "Review the timing of your pin state changes"

def hints (sameLength onTime : Bool) (missing extra : List Int) : List String :=
  (if sameLength then [] else ["Check the number of pin state changes in your code"]) ++
  (if onTime then [] else [timingHint]) ++
  (if missing.isEmpty then []
    else ["Your program never changes pin(s) " ++ PinSet.render missing]) ++
  (if extra.isEmpty then [] else ["Pin(s) " ++ PinSet.render extra ++ " should not change"])

def analyze {α : Type} [Weighing α] (settings : CompareSettings α) (target candidate : Sequence) :
    Except Breakdown Feedback := do
  let t := normalize target.events
  let c := normalize candidate.events
  let issues := issuesFrom settings.toleranceMs 0 t c
  let wanted := PinSet.ofList (t.map (·.pin))
  let found := PinSet.ofList (c.map (·.pin))
  let missing := PinSet.diff wanted found
  let extra := PinSet.diff found wanted
  let average ← average issues
  return {
    target := Summary.ofSequence target
    candidate := Summary.ofSequence candidate
    timingIssues := issues
    averageDifference := average
    missingPins := missing
    extraPins := extra
    suggestions := hints (t.length == c.length) issues.isEmpty missing extra }

end Feedback

end SketchGrader
