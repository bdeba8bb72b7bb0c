import SketchGrader.Board.Pin
import SketchGrader.Document.Datum
import SketchGrader.Settings.Basic
import SketchGrader.Sketch.Reading
import SketchGrader.Timeline.Event

/-!
# Comparing timelines

A candidate is compared with a target event by event. Each aligned pair is judged on its pin, its
state, its duty and the gap to the next event; gaps and not times are compared, so a late start
costs nothing. The four counts are weighted into a score.

The texts of differences write out their numbers in full. The limit on digits holds for reading a
numeral only.
-/

namespace SketchGrader

inductive DifferenceKind where
  | length
  | pin
  | state
  | pwm
  | timing
  deriving DecidableEq, Repr

def DifferenceKind.name : DifferenceKind → String
  | length => "length_mismatch"
  | pin => "pin_mismatch"
  | state => "state_mismatch"
  | pwm => "pwm_mismatch"
  | timing => "timing_mismatch"

/-- What differs between a target and a candidate. -/
inductive Difference where
  /-- One of the two has no events. -/
  | oneEmpty (target candidate : Nat)
  | lengths (target candidate : Nat)
  | pins (index : Nat) (expected actual : Int)
  | states (index : Nat) (pin : Int) (expected actual : Bool)
  | duties (index : Nat) (pin : Int) (expected actual : Option Int)
  | gaps (index : Nat) (pin : Int) (expected actual : Int)
  deriving DecidableEq, Repr

namespace Difference

def kind : Difference → DifferenceKind
  | oneEmpty .. | lengths .. => .length
  | pins .. => .pin
  | states .. => .state
  | duties .. => .pwm
  | gaps .. => .timing

def stateText (on : Bool) : String := if on then "ON" else "OFF"

def dutyText : Option Int → String
  | some duty => toString duty
  | none => "None"

def message : Difference → String
  | oneEmpty target candidate => s!"Target has {target} events, player has {candidate} events"
  | lengths target candidate =>
    s!"Different number of events: target={target}, player={candidate}"
  | pins index expected actual => s!"Event {index}: Expected pin {expected}, got pin {actual}"
  | states index pin expected actual =>
    let wanted := stateText expected
    let found := stateText actual
    s!"Event {index}: Pin {pin} expected {wanted}, got {found}"
  | duties index pin expected actual =>
    let wanted := dutyText expected
    let found := dutyText actual
    s!"Event {index}: Pin {pin} expected {wanted}% duty cycle, got {found}%"
  | gaps index _ expected actual =>
    let apart := (expected - actual).natAbs
    s!"Event {index}: Interval mismatch - expected {expected}ms between events, " ++
      s!"got {actual}ms (diff: {apart}ms)"

def index? : Difference → Option Nat
  | oneEmpty .. | lengths .. => none
  | pins index .. | states index .. | duties index .. | gaps index .. => some index

/-- The target's pin in the pair that differs. -/
def pin? : Difference → Option Int
  | oneEmpty .. | lengths .. => none
  | pins _ expected _ => some expected
  | states _ pin .. | duties _ pin .. | gaps _ pin .. => some pin

def dutyDatum : Option Int → Datum
  | some duty => .int duty
  | none => .null

def expected : Difference → Datum
  | oneEmpty target _ | lengths target _ => .int target
  | pins _ expected _ | gaps _ _ expected _ => .int expected
  | states _ _ expected _ => .bool expected
  | duties _ _ expected _ => dutyDatum expected

def actual : Difference → Datum
  | oneEmpty _ candidate | lengths _ candidate => .int candidate
  | pins _ _ actual | gaps _ _ _ actual => .int actual
  | states _ _ _ actual => .bool actual
  | duties _ _ _ actual => dutyDatum actual

end Difference

/-- The events with times counted from the first one. -/
def normalize (events : List Event) : List Event :=
  match events with
  | [] => []
  | first :: _ => events.map fun e => e.shift (-first.time)

/-- Two aligned events, and the ones that follow them if both are followed. -/
structure EventPair where
  index : Nat
  target : Event
  candidate : Event
  next : Option (Event × Event)
  deriving DecidableEq, Repr

namespace EventPair

/-- Aligns two lists of events, counting from the given index. -/
def alignFrom (index : Nat) : List Event → List Event → List EventPair
  | t :: ts, c :: cs =>
    let next := match ts, cs with
      | t' :: _, c' :: _ => some (t', c')
      | _, _ => none
    ⟨index, t, c, next⟩ :: alignFrom (index + 1) ts cs
  | _, _ => []

/-- The gap to the next event of the target and of the candidate. -/
def gaps? (p : EventPair) : Option (Int × Int) :=
  p.next.map fun (t, c) => (t.time - p.target.time, c.time - p.candidate.time)

end EventPair

/-- The duty of an event as a pulse width. -/
def Event.scaledDuty (e : Event) : Except Breakdown Int := Scale.percentToPwm (e.duty.getD 0)

/-- In which respects a pair agrees. -/
structure Judgement where
  pin : Bool
  state : Bool
  pwm : Bool
  interval : Bool
  deriving DecidableEq, Repr

namespace Judgement

variable {α : Type} [Weighing α]

/-- Whether the duties agree: only two pulse-width events can disagree. -/
def pwmAgrees (settings : CompareSettings α) (t c : Event) : Except Breakdown Bool :=
  if t.kind = .pwm ∧ c.kind = .pwm then do
    let wanted ← t.scaledDuty
    let found ← c.scaledDuty
    return decide (((wanted - found).natAbs : Int) ≤ settings.pwmTolerance)
  else .ok true

/-- How far two gaps may be apart; a gap close to zero has a tolerance of its own. -/
def allowedGap (settings : CompareSettings α) (tolerance targetGap : Int) : Int :=
  if targetGap < settings.simultaneousBelowMs then settings.simultaneousToleranceMs else tolerance

/-- Whether the gaps to the next events agree; a pair that is not followed agrees. -/
def intervalAgrees (settings : CompareSettings α) (tolerance : Int) (p : EventPair) : Bool :=
  match p.gaps? with
  | none => true
  | some (t, c) => decide (((t - c).natAbs : Int) ≤ allowedGap settings tolerance t)

def ofPair (settings : CompareSettings α) (tolerance : Int) (p : EventPair) :
    Except Breakdown Judgement := do
  let pwm ← pwmAgrees settings p.target p.candidate
  return {
    pin := p.target.pin == p.candidate.pin
    state := p.target.isOn == p.candidate.isOn
    pwm
    interval := intervalAgrees settings tolerance p }

/-- The differences of a judged pair, in the order of the judgement. -/
def differences (p : EventPair) (j : Judgement) : List Difference :=
  (if j.pin then [] else [.pins p.index p.target.pin p.candidate.pin]) ++
  (if j.state then [] else [.states p.index p.target.pin p.target.isOn p.candidate.isOn]) ++
  (if j.pwm then [] else [.duties p.index p.target.pin p.target.duty p.candidate.duty]) ++
  (if j.interval then [] else
    match p.gaps? with
    | some (t, c) => [.gaps p.index p.target.pin t c]
    | none => [])

end Judgement

/-- How many pairs agree in each respect. -/
structure Details where
  intervalMatches : Nat := 0
  pinMatches : Nat := 0
  stateMatches : Nat := 0
  pwmMatches : Nat := 0
  total : Nat := 0
  deriving DecidableEq, Repr

def Details.ofJudgements (judged : List Judgement) : Details where
  intervalMatches := judged.countP (·.interval)
  pinMatches := judged.countP (·.pin)
  stateMatches := judged.countP (·.state)
  pwmMatches := judged.countP (·.pwm)
  total := judged.length

structure Verdict where
  matched : Bool := false
  score : Int := 0
  differences : List Difference := []
  details : Details := {}
  deriving DecidableEq, Repr

namespace Verdict

variable {α : Type} [Weighing α]

/-- The weighted share of agreeing pairs in percent. -/
def weigh (s : CompareSettings α) (d : Details) : Except Breakdown Int :=
  if d.total = 0 then .ok 0
  else
    let raw := (s.intervalWeight * (d.intervalMatches : α) + s.pinWeight * (d.pinMatches : α)
      + s.stateWeight * (d.stateMatches : α) + s.pwmWeight * (d.pwmMatches : α))
      / (d.total : α) * ((100 : Nat) : α)
    Weighing.round raw

def judge (settings : CompareSettings α) (tolerance : Int) :
    List EventPair → Except Breakdown (List (EventPair × Judgement))
  | [] => .ok []
  | p :: rest => do
    let j ← Judgement.ofPair settings tolerance p
    return (p, j) :: (← judge settings tolerance rest)

/-- Compares two non-empty lists of events. -/
def ofEvents (settings : CompareSettings α) (tolerance : Int) (target candidate : List Event) :
    Except Breakdown Verdict := do
  let judged ← judge settings tolerance (EventPair.alignFrom 0 target candidate)
  let details := Details.ofJudgements (judged.map (·.2))
  let score ← weigh settings details
  let sameLength := target.length == candidate.length
  return {
    matched := sameLength && decide (settings.passScore ≤ score)
    score
    differences :=
      (if sameLength then [] else [.lengths target.length candidate.length]) ++
        judged.flatMap fun (p, j) => j.differences p
    details }

/-- Compares a candidate with a target. Two empty timelines agree, one empty one fails. -/
def compare (settings : CompareSettings α) (target candidate : Sequence) (tolerance : Option Int) :
    Reported Verdict :=
  match target.events.isEmpty, candidate.events.isEmpty with
  | true, true => ⟨.ok { matched := true, score := 100 }, []⟩
  | false, false =>
    match ofEvents settings (tolerance.getD settings.toleranceMs) (normalize target.events)
        (normalize candidate.events) with
    | .error b => ⟨.error (.breakdown b), []⟩
    | .ok v => ⟨.ok v, [.compared v.matched v.score v.differences.length]⟩
  | _, _ =>
    ⟨.ok { differences := [.oneEmpty target.events.length candidate.events.length] }, []⟩

end Verdict

end SketchGrader
