import SketchGrader.Board.Machine
import SketchGrader.Live.Mark
import SketchGrader.Live.Recorder
import SketchGrader.Timeline.Event

/-!
# Running a program live

A live run executes a program one statement at a time, pauses where the program waits and after
every other statement, and records the events. A stop request takes effect before the next
statement. A learner's mistake ends the run and is part of its result.
-/

namespace SketchGrader.Live

structure Setup where
  usablePins : List Int := defaultPins
  limits : Limits := {}
  stepDelayMs : Int := 50
  maxIterations : Int := 1000
  /-- Whether anyone watches the marks other than pauses. -/
  watched : Bool := true
  /-- Whether pauses move the clock and leave a mark. -/
  pausesMoveClock : Bool := true
  deriving Repr

/-- What a runner keeps from one run to the next. -/
structure Session where
  recorder : Recorder := {}
  clock : Clock := {}
  plan : StopPlan := {}
  stopRequested : Bool := false
  deriving DecidableEq, Repr

/-- Where a live run stands. -/
structure State where
  session : Session
  machine : Machine
  emission : Emission := {}
  deriving DecidableEq, Repr

/-- How a part of a run ended. -/
inductive Ending where
  | finished
  | stopped
  | halted (halt : Halt)
  deriving DecidableEq, Repr

/-- What a part of a live run gave. -/
structure Progress where
  marks : List Mark
  state : State
  ending : Ending

/-- The session after a mark of a kind has been seen. -/
def Session.seen (s : Session) (kind : MarkKind) : Session :=
  let (stop, plan) := s.plan.see kind
  { s with plan, stopRequested := s.stopRequested || stop }

/-- Shows a mark to whoever watches. -/
def State.tell (setup : Setup) (s : State) (kind : MarkKind) (mark : Mark) : List Mark × State :=
  if setup.watched then ([mark], { s with session := s.session.seen kind }) else ([], s)

def State.pause (setup : Setup) (s : State) (ms : Int) : List Mark × State :=
  if setup.pausesMoveClock then
    let session := { s.session with clock := s.session.clock.advance ms }
    ([.pause ms], { s with session := session.seen .pause })
  else ([], s)

/-- The pause after a statement that is no wait. -/
def State.stepPause (setup : Setup) (s : State) : List Mark × State :=
  if setup.stepDelayMs = 0 then ([], s) else s.pause setup setup.stepDelayMs

/-- Observes a pin after a write to it and records the event that it gives. -/
def State.observe (setup : Setup) (origin : Body) (s : State) (kind : EventKind) (pin : Int) :
    List Mark × State :=
  let (time, clock) := s.session.recorder.elapsed s.session.clock
  let s := { s with session := { s.session with clock } }
  match s.machine.board.get? pin with
  | none => ([], s)
  | some pinState =>
    match s.emission.observe pinState pin kind origin time with
    | (none, emission) => ([], { s with emission })
    | (some event, emission) =>
      match s.session.recorder.record s.session.clock event with
      | (none, recorder, clock) =>
        ([], { s with emission, session := { s.session with recorder, clock } })
      | (some stamped, recorder, clock) =>
        let s := { s with emission, session := { s.session with recorder, clock } }
        let (shown, s) := s.tell setup .event (.event stamped)
        (.notice (.recorded stamped) :: shown, s)

/-- What follows the execution of a statement: it is shown, a wait pauses, a write is observed. -/
def State.settle (setup : Setup) (origin : Body) (s : State) (line : Int)
    (statement : Statement) : List Mark × State :=
  let (shown, s) :=
    s.tell setup .statement (.statement line statement s.machine.board.lights)
  match statement with
  | .wait ms =>
    let (paused, s) := s.pause setup ms
    (shown ++ paused, s)
  | _ =>
    let (observed, s) := match statement.writtenPin? with
      | some pin => s.observe setup origin (.ofStatement statement) pin
      | none => ([], s)
    let (paused, s) := s.stepPause setup
    (shown ++ observed ++ paused, s)

def line (setup : Setup) (origin : Body) (s : State) (number : Int) (text : Text) : Progress :=
  match s.machine.execLine setup.limits number text with
  | .error halt => ⟨[], s, .halted halt⟩
  | .ok (none, _) => ⟨[], s, .finished⟩
  | .ok (some statement, machine) =>
    let reported := (Machine.notices setup.limits number statement).map Mark.notice
    let (marks, s) := { s with machine }.settle setup origin number statement
    ⟨reported ++ marks, s, .finished⟩

/-- Goes on where a part of a run finished. -/
def Progress.andThen (p : Progress) (next : State → Progress) : Progress :=
  match p.ending with
  | .finished =>
    let q := next p.state
    { q with marks := p.marks ++ q.marks }
  | _ => p

/-- Runs the lines of a body; a stop request is looked for before each of them. -/
def lines (setup : Setup) (origin : Body) (s : State) : List (Int × Text) → Progress
  | [] => ⟨[], s, .finished⟩
  | (number, text) :: rest =>
    if s.session.stopRequested then ⟨[], s, .stopped⟩
    else (line setup origin s number text).andThen fun s => lines setup origin s rest

/-- What the passes of the loop body gave. -/
structure Passes where
  progress : Progress
  iterations : Nat

/-- Runs the loop body at most `count` more times, after `done` passes. -/
def passes (setup : Setup) (body : List (Int × Text)) (s : State) (done : Nat) : Nat → Passes
  | 0 => ⟨⟨[], s, .finished⟩, done⟩
  | count + 1 =>
    let pass := lines setup .loop s body
    match pass.ending with
    | .finished =>
      let (shown, s) := pass.state.tell setup .iteration (.iteration (done + 1))
      let rest := passes setup body s (done + 1) count
      ⟨{ rest.progress with marks := pass.marks ++ shown ++ rest.progress.marks },
        rest.iterations⟩
    | _ => ⟨pass, done⟩

structure RunResult where
  sequence : Sequence
  iterations : Nat
  stopped : Bool
  fault : Option Fault
  deriving DecidableEq, Repr

/-- A live run: its result or why the grader gave up, its trace, and what the runner keeps. -/
structure Run where
  result : Except Breakdown RunResult
  marks : List Mark
  session : Session

/-- Runs both bodies from a state on. -/
def bodies (setup : Setup) (p : Program) (limit : Int) (s : State) : Passes :=
  let first := lines setup .setup s (p.statementLines .setup)
  match first.ending with
  | .finished =>
    if p.isLooping then
      let rest := passes setup (p.statementLines .loop) first.state 0 limit.toNat
      { rest with progress := first.andThen fun _ => rest.progress }
    else ⟨first, 0⟩
  | _ => ⟨first, 0⟩

/-- The end of a run: a learner's mistake is shown, recording ends, the events are put in order. -/
def finish (setup : Setup) (opening : List Mark) (ran : Passes) : Run :=
  let s := ran.progress.state
  let marks := opening ++ ran.progress.marks
  let close (s : State) (fault : Option Fault) (marks : List Mark) : Run :=
    let recorder := s.session.recorder.stop
    let stopped := s.session.stopRequested
    ⟨.ok ⟨recorder.sequence, ran.iterations, stopped, fault⟩,
      marks ++ [.notice (.runFinished ran.iterations stopped (fault.map Fault.kind))],
      { s.session with recorder }⟩
  match ran.progress.ending with
  | .halted (.breakdown b) =>
    ⟨.error b, marks, { s.session with recorder := s.session.recorder.stop }⟩
  | .halted (.fault f) =>
    let (shown, s) := s.tell setup .halted (.halted f)
    close s (some f) (marks ++ .notice (.runHalted f) :: shown)
  | _ => close s none marks

/-- Runs a program live. An earlier stop request is forgotten. -/
def run (setup : Setup) (session : Session) (p : Program) (limit : Option Int) : Run :=
  let limit := limit.getD setup.maxIterations
  let (recorder, clock) := session.recorder.start session.clock
  let session := { session with recorder, clock, stopRequested := false }
  let start : State := { session, machine := Machine.ofPins setup.usablePins }
  finish setup [.notice .recordingStarted, .notice (.runStarted limit)]
    (bodies setup p limit start)

def Session.stop (s : Session) : Session := { s with stopRequested := true }

end SketchGrader.Live
