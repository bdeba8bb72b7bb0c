import SketchGrader.Board.Machine
import SketchGrader.Sketch.Reading
import SketchGrader.Timeline.Event

/-!
# Replaying a program

A replay executes a program against a virtual clock that only waits move: the setup body once, then
the loop body a number of times. A write to a usable pin that is no output is left out with a
warning; every other mistake ends the replay.

There is no limit on how long a replay is: `run` goes through any number of passes and keeps all
their events.
-/

namespace SketchGrader.Replay

structure State where
  machine : Machine
  emission : Emission := {}
  clock : Int := 0
  deriving DecidableEq, Repr

/-- What a part of a replay gave: its events and notices, and where it stands or why it ended. -/
structure Progress where
  events : List Event
  notices : List Notice
  result : Except Halt State

/-- The pin of a write that is left out: usable, but no output. -/
def dropped? (board : Board) (statement : Statement) : Option Int :=
  match statement.writtenPin? with
  | none => none
  | some pin =>
    match board.get? pin with
    | some state => if state.direction = .output then none else some pin
    | none => none

/-- The moment after a statement has been executed on the machine. -/
def settle (origin : Body) (s : State) (machine : Machine) (statement : Statement) :
    List Event × State :=
  let s := { s with machine }
  match statement with
  | .wait ms => ([], { s with clock := s.clock + ms })
  | _ =>
    match statement.writtenPin? with
    | none => ([], s)
    | some pin =>
      match machine.board.get? pin with
      | none => ([], s)
      | some state =>
        let (event, emission) :=
          s.emission.observe state pin (.ofStatement statement) origin s.clock
        (event.toList, { s with emission })

def line (limits : Limits) (origin : Body) (s : State) (number : Int) (text : Text) : Progress :=
  match Statement.ofLine? text with
  | .error problem => ⟨[], [], .error (problem.atLine number)⟩
  | .ok none => ⟨[], [], .ok s⟩
  | .ok (some statement) =>
    match dropped? s.machine.board statement with
    | some pin => ⟨[], [.writeDropped pin number], .ok s⟩
    | none =>
      match s.machine.exec limits statement with
      | .error problem => ⟨[], [], .error (problem.atLine number)⟩
      | .ok machine =>
        let (events, s) := settle origin s machine statement
        ⟨events, Machine.notices limits number statement, .ok s⟩

def Progress.andThen (p : Progress) (next : State → Progress) : Progress :=
  match p.result with
  | .error halt => { p with result := .error halt }
  | .ok s =>
    let q := next s
    ⟨p.events ++ q.events, p.notices ++ q.notices, q.result⟩

def lines (limits : Limits) (origin : Body) (s : State) : List (Int × Text) → Progress
  | [] => ⟨[], [], .ok s⟩
  | (number, text) :: rest =>
    (line limits origin s number text).andThen fun s => lines limits origin s rest

def passes (limits : Limits) (body : List (Int × Text)) (s : State) : Nat → Progress
  | 0 => ⟨[], [], .ok s⟩
  | n + 1 => (lines limits .loop s body).andThen fun s => passes limits body s n

/-- Replays the setup body once and the loop body the given number of times. -/
def run (usable : List Int) (limits : Limits) (p : Program) (count : Nat) : Progress :=
  (lines limits .setup { machine := Machine.ofPins usable } (p.statementLines .setup)).andThen
    fun s => passes limits (p.statementLines .loop) s count

def lastTime (events : List Event) : Int := (events.getLast?.map (·.time)).getD 0

/-- The timeline of a program. There is always at least one pass of the loop body. -/
def extract (usable : List Int) (limits : Limits) (p : Program) (iterations : Int) :
    Reported Sequence :=
  let progress := run usable limits p (max 1 iterations).toNat
  match progress.result with
  | .error halt => ⟨.error halt, progress.notices⟩
  | .ok s =>
    let events := progress.events
    let total := lastTime events
    ⟨.ok ⟨events, total, p.isLooping⟩,
      progress.notices ++ [.extracted events.length total s.clock p.isLooping]⟩

end SketchGrader.Replay
