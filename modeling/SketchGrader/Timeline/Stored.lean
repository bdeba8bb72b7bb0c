import SketchGrader.Document.Whole
import SketchGrader.Timeline.Event

/-!
# Stored timelines

A sequence as plain data, reading it back from data that somebody else may have written, and the
text of the file in which it is stored.
-/

namespace SketchGrader

inductive StoredError where
  | missingField (name : String)
  | notWhole (error : WholeError)
  | badKind (shown : String)
  | badOrigin (shown : String)
  /-- Data of this kind has no fields. -/
  | noFields (kind : String)
  /-- Data of this kind has no items. -/
  | noItems (kind : String)
  deriving DecidableEq, Repr

def StoredError.message : StoredError → String
  | missingField name => Text.quote name
  | notWhole error => error.message
  | badKind shown => s!"{shown} is not a valid EventKind"
  | badOrigin shown => s!"{shown} is not a valid Body"
  | noFields kind => s!"'{kind}' object has no attribute 'get'"
  | noItems kind => s!"'{kind}' object is not iterable"

def EventKind.ofDatum (d : Datum) : Except StoredError EventKind :=
  match d with
  | .text "digital" => .ok .digital
  | .text "pwm" => .ok .pwm
  | other => .error (.badKind other.display)

def Body.ofDatum (d : Datum) : Except StoredError Body :=
  match d with
  | .text "setup" => .ok .setup
  | .text "loop" => .ok .loop
  | other => .error (.badOrigin other.display)

namespace Stored

def whole (d : Datum) : Except StoredError Int :=
  match d.toWhole with
  | .ok n => .ok n
  | .error e => .error (.notWhole e)

/-- A field that has to be there. -/
def need (fields : List (String × Datum)) (name : String) : Except StoredError Datum :=
  match Datum.field? fields name with
  | some d => .ok d
  | none => .error (.missingField name)

/-- The items of a datum: those of a list, the names of a record, the characters of a text. -/
def items : Datum → Except StoredError (List Datum)
  | .list items => .ok items
  | .record fields => .ok (fields.map fun field => .text field.1)
  | .text value => .ok (value.toList.map fun c => .text (String.singleton c))
  | other => .error (.noItems other.kindName)

end Stored

namespace Event

def toDatum (e : Event) : Datum :=
  .record [("time", .int e.time), ("pin", .int e.pin), ("is_on", .bool e.isOn),
    ("kind", .text e.kind.name), ("origin", .text e.origin.name),
    ("duty_cycle_percent", match e.duty with
      | some duty => .int duty
      | none => .null)]

/-- The event that data denotes; the fields are read in the order in which they are written. -/
def ofDatum : Datum → Except StoredError Event
  | .record fields => do
    let time ← Stored.whole (← Stored.need fields "time")
    let pin ← Stored.whole (← Stored.need fields "pin")
    let isOn := (← Stored.need fields "is_on").isTruthy
    let kind ← EventKind.ofDatum (← Stored.need fields "kind")
    let origin ← Body.ofDatum ((Datum.field? fields "origin").getD (.text Body.loop.name))
    let duty ← match Datum.field? fields "duty_cycle_percent" with
      | none | some .null => .ok none
      | some d => (Stored.whole d).map some
    return { time, pin, isOn, kind, origin, duty }
  | other => .error (.noFields other.kindName)

/-- The events of a list of data, in order; the first that is none ends the reading. -/
def ofData : List Datum → Except StoredError (List Event)
  | [] => .ok []
  | d :: rest => do
    let event ← ofDatum d
    return event :: (← ofData rest)

end Event

namespace Sequence

def toDatum (s : Sequence) : Datum :=
  .record [("events", .list (s.events.map Event.toDatum)), ("total_duration_ms", .int s.totalMs),
    ("is_looping", .bool s.isLooping)]

/-- The sequence that data denotes. -/
def ofDatum : Datum → Except StoredError Sequence
  | .record fields => do
    let stored := (Datum.field? fields "events").getD .null
    let events ← if stored.isTruthy then (Stored.items stored).bind Event.ofData else .ok []
    let totalMs ← Stored.whole ((Datum.field? fields "total_duration_ms").getD (.int 0))
    let isLooping := ((Datum.field? fields "is_looping").getD (.bool false)).isTruthy
    return { events, totalMs, isLooping }
  | other => .error (.noFields other.kindName)

/-- The sequence in a stored document; an empty document holds the empty sequence. -/
def ofDocument (d : Datum) : Except StoredError Sequence :=
  if d.isTruthy then ofDatum d else .ok {}

def truthText (b : Bool) : String := if b then "true" else "false"

def eventLines (e : Event) : List String :=
  let duty := match e.duty with
    | some duty => toString duty
    | none => "null"
  ["- time: " ++ toString e.time, "  pin: " ++ toString e.pin, "  is_on: " ++ truthText e.isOn,
    "  kind: " ++ e.kind.name, "  origin: " ++ e.origin.name, "  duty_cycle_percent: " ++ duty]

def fileLines (s : Sequence) : List String :=
  (if s.events.isEmpty then ["events: []"] else "events:" :: s.events.flatMap eventLines) ++
    ["total_duration_ms: " ++ toString s.totalMs, "is_looping: " ++ truthText s.isLooping]

def fileText (s : Sequence) : String := String.join (s.fileLines.map (· ++ "\n"))

end Sequence

end SketchGrader
