import SketchGrader.Board.Pin
import SketchGrader.Log.Notice
import SketchGrader.Settings.Basic
import SketchGrader.Sketch.Statement

/-!
# The machine

A machine is a board with its two timers. It executes one statement at a time and knows nothing of
time: a wait is only checked here. A statement that cannot be executed changes nothing.
-/

namespace SketchGrader

/-- Whether a timer runs, and with which period. -/
inductive TimerState where
  | stopped
  | running (period : Option Int)
  deriving DecidableEq, Repr

/-- The board and the state of each timer. -/
structure Machine where
  board : Board
  timerOne : TimerState := .stopped
  timerZero : TimerState := .stopped
  deriving DecidableEq, Repr

namespace Machine

def ofPins (usable : List Int) : Machine := { board := Board.ofPins usable }

/-- The same machine as when it was fresh. -/
def reset (m : Machine) : Machine := { board := m.board.reset }

def timer (m : Machine) : Timer → TimerState
  | .one => m.timerOne
  | .zero => m.timerZero

def setTimer (m : Machine) (t : Timer) (state : TimerState) : Machine :=
  match t with
  | .one => { m with timerOne := state }
  | .zero => { m with timerZero := state }

def setPin (m : Machine) (pin : Int) (state : PinState) : Machine :=
  { m with board := m.board.set pin state }

/-- The state of a pin, which has to be usable. -/
def pinState (m : Machine) (pin : Int) : Except Problem PinState :=
  match m.board.get? pin with
  | some state => .ok state
  | none =>
    match m.board.rangeText with
    | .ok range => .error (.cause (.pinUnavailable pin range))
    | .error b => .error (.breakdown b)

/-- Passes if a condition holds. -/
def require (condition : Bool) (otherwise : Cause) : Except Problem Unit :=
  if condition then .ok () else .error (.cause otherwise)

/-- The result of a computation on numbers. -/
def computed {α : Type} : Except Breakdown α → Except Problem α
  | .ok a => .ok a
  | .error b => .error (.breakdown b)

def exec (limits : Limits) (m : Machine) : Statement → Except Problem Machine
  | .pinMode pin mode => do
    let state ← m.pinState pin
    if mode = "INPUT".toList then return m.setPin pin { state with direction := .input }
    else if mode = "OUTPUT".toList then return m.setPin pin { state with direction := .output }
    else .error (.cause (.badKeyword .mode (String.ofList mode)))
  | .digitalWrite pin level => do
    let state ← m.pinState pin
    require (level == "HIGH".toList || level == "LOW".toList)
      (.badKeyword .level (String.ofList level))
    require (state.direction == .output) (.notOutput pin "digitalWrite")
    return m.setPin pin { state with level := level == "HIGH".toList }
  | .setDuty pin percent => do
    let state ← m.pinState pin
    require (0 ≤ percent && percent ≤ limits.maxDutyPercent)
      (.dutyOutOfRange percent limits.maxDutyPercent)
    require (state.direction == .output) (.notOutput pin "setDutyCycle")
    let pwm ← computed (Scale.percentToPwm percent)
    return m.setPin pin (state.drive pwm percent)
  | .analogWrite pin _ => .error (.cause (.legacyWrite (toString pin)))
  | .timerStart timer period => .ok (m.setTimer timer (.running period))
  | .timerPwm timer pin duty => do
    require (m.timer timer != .stopped) (.timerNotStarted timer)
    let state ← m.pinState pin
    require (0 ≤ duty && duty ≤ timer.rawMax) (.rawDutyOutOfRange duty timer.rawMax)
    require (state.direction == .output) (.notOutput pin (timer.label ++ ".pwm"))
    let pwm ← computed (Scale.convert duty timer.rawMax 255)
    let percent ← computed (Scale.convert duty timer.rawMax 100)
    return m.setPin pin (state.drive pwm percent)
  | .timerStop timer => .ok (m.setTimer timer .stopped)
  | .wait ms => do
    require (0 ≤ ms && ms ≤ limits.maxWaitMs) (.waitOutOfRange ms limits.maxWaitMs)
    return m
  | .conditional _ => .ok m

/-- What is reported when a statement at a line has been executed. -/
def notices (limits : Limits) (line : Int) : Statement → List Notice
  | .pinMode pin mode => [.modeSet pin (String.ofList mode)]
  | .timerStart .one (some period) =>
    if limits.periodMinUs ≤ period && period ≤ limits.periodMaxUs then []
    else [.oddPeriod period line]
  | _ => []

/-- Executes one line: the statement that it holds, if any, and the machine after it. -/
def execLine (limits : Limits) (m : Machine) (line : Int) (text : Text) :
    Except Halt (Option Statement × Machine) :=
  match Statement.ofLine? text with
  | .error problem => .error (problem.atLine line)
  | .ok none => .ok (none, m)
  | .ok (some statement) =>
    match m.exec limits statement with
    | .error problem => .error (problem.atLine line)
    | .ok m => .ok (some statement, m)

end Machine

end SketchGrader
