import SketchGrader.Log.Record
import SketchGrader.Sketch.Fault
import SketchGrader.Timeline.Event

/-!
# Notices

What the grader reports about its own work, as data. The severity, the origin and the wording of a
notice are functions of it, so nothing is decided where a notice arises.
-/

namespace SketchGrader

inductive Severity where
  | debug
  | info
  | warning
  | error
  deriving DecidableEq, Repr

def Severity.name : Severity → String
  | debug => "DEBUG"
  | info => "INFO"
  | warning => "WARNING"
  | error => "ERROR"

/-- The number by which severities are compared. -/
def Severity.rank : Severity → Nat
  | debug => 10
  | info => 20
  | warning => 30
  | error => 40

/-- Where notices come from: a component, the part of it that speaks, and what that part does. -/
structure Origin where
  component : String
  speaker : String
  activity : String
  deriving DecidableEq, Repr

inductive Notice where
  /-- A sketch without one of its bodies. -/
  | bodyAbsent (body : Body)
  | parsed (setupLine loopLine : Int)
  | modeSet (pin : Int) (mode : String)
  /-- A timer period outside the recommended range. -/
  | oddPeriod (microseconds line : Int)
  /-- A write to a pin that is no output, left out of a timeline. -/
  | writeDropped (pin line : Int)
  | extracted (count : Nat) (total clock : Int) (looping : Bool)
  | recordingStarted
  | recorded (event : Event)
  | runStarted (limit : Int)
  | runHalted (fault : Fault)
  | runFinished (iterations : Nat) (stopped : Bool) (fault : Option FaultKind)
  | compared (matched : Bool) (score : Int) (differences : Nat)
  | rejected (level : Int) (message : String)
  deriving DecidableEq, Repr

namespace Notice

def severity : Notice → Severity
  | bodyAbsent _ | oddPeriod .. | writeDropped .. => .warning
  | parsed .. | modeSet .. | recordingStarted | recorded _ => .debug
  | extracted .. | runStarted _ | runFinished .. | compared .. | rejected .. => .info
  | runHalted _ => .error

def origin : Notice → Origin
  | bodyAbsent _ | parsed .. => ⟨"parser", "ProgramParser", "parse"⟩
  | modeSet .. => ⟨"interpreter", "StatementInterpreter", "_pin_mode"⟩
  | oddPeriod .. => ⟨"interpreter", "StatementInterpreter", "_timer_initialize"⟩
  | writeDropped .. | extracted .. => ⟨"extractor", "TimelineExtractor", "extract"⟩
  | recordingStarted => ⟨"recorder", "ExecutionRecorder", "start"⟩
  | recorded _ => ⟨"recorder", "ExecutionRecorder", "record"⟩
  | runStarted _ | runHalted _ | runFinished .. => ⟨"runner", "LiveRunner", "run"⟩
  | compared .. => ⟨"validator", "SequenceValidator", "validate"⟩
  | rejected .. => ⟨"runtime", "Runtime", "check"⟩

def truth (b : Bool) : String := if b then "True" else "False"

def message : Notice → String
  | bodyAbsent body =>
    let name := body.name
    s!"No {name}() function found, using empty {name}"
  | parsed setupLine loopLine => s!"Parsed program: setup@{setupLine} loop@{loopLine}"
  | modeSet pin mode => s!"Pin {pin} set to {mode}"
  | oddPeriod microseconds _ =>
    s!"Timer1 period {microseconds}us is not optimal for 50Hz. Recommended: 20000us"
  | writeDropped pin _ => s!"Pin {pin} is not in OUTPUT mode, event dropped"
  | extracted count total clock looping =>
    let repeats := truth looping
    s!"Extracted {count} events over {total}ms (virtual clock {clock}ms, looping={repeats})"
  | recordingStarted => "Recording started"
  | recorded event =>
    let pin := event.pin
    let state := if event.isOn then "ON" else "OFF"
    let kind := event.kind.name
    let time := event.time
    s!"Recorded pin {pin} -> {state} ({kind}) at {time}ms"
  | runStarted limit => s!"Live run started (max {limit} iterations)"
  | runHalted fault => "Run halted (" ++ fault.kind.name ++ "): " ++ fault.detail
  | runFinished iterations stopped fault =>
    let stop := truth stopped
    let kind := match fault with
      | some kind => kind.name
      | none => "None"
    s!"Live run finished after {iterations} iterations (stopped={stop}, error={kind})"
  | compared matched score differences =>
    let verdict := if matched then "MATCH" else "NO MATCH"
    s!"Validation {verdict} (score {score}%, {differences} differences)"
  | rejected level message => s!"Level {level} submission rejected: {message}"

/-- The sketch line that a notice is about; 0 is no line. -/
def line : Notice → Int
  | oddPeriod _ line | writeDropped _ line => line
  | runHalted fault => fault.line
  | _ => 0

def render (n : Notice) : String :=
  let place := n.origin
  n.severity.name ++ " [" ++ place.speaker ++ "." ++ place.activity ++ "] " ++ n.message ++
    Log.lineReference n.line

end Notice

end SketchGrader
