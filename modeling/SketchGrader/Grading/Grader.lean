import SketchGrader.Grading.Compare
import SketchGrader.Level.Book
import SketchGrader.Live.Runner
import SketchGrader.Timeline.Replay

/-!
# Grading a submission

A grader has settings and a level book and remembers the target timelines that it has worked out.
A submission is read, run live or replayed, and its timeline is compared with the target.
-/

namespace SketchGrader

/-- Settings, levels, and the target timelines worked out so far. -/
structure Grader (α : Type := Float) [Weighing α] where
  settings : Settings α := {}
  book : LevelBook := ⟨[]⟩
  targets : List (Int × Sequence) := []

structure Grade where
  levelId : Int
  target : Sequence
  candidate : Sequence
  verdict : Verdict
  fault : Option Fault := none
  iterations : Int := 0
  deriving DecidableEq, Repr

def Grade.passed (g : Grade) : Bool := g.fault.isNone && g.verdict.matched

/-- A result together with the trace of how it came about. -/
structure Traced (α : Type) where
  outcome : Except Halt α
  marks : List Mark

namespace Traced

def ofReported {α : Type} (r : Reported α) : Traced α := ⟨r.outcome, r.notices.map Mark.notice⟩

def done {α : Type} (a : α) : Traced α := ⟨.ok a, []⟩

def andThen {α β : Type} (x : Traced α) (next : α → Traced β) : Traced β :=
  match x.outcome with
  | .error halt => ⟨.error halt, x.marks⟩
  | .ok a => ⟨(next a).outcome, x.marks ++ (next a).marks⟩

end Traced

namespace Grader

variable {α : Type} [Weighing α]

def liveSetup (g : Grader α) : Live.Setup where
  usablePins := g.settings.usablePins
  limits := g.settings.limits
  stepDelayMs := g.settings.live.stepDelayMs
  maxIterations := g.settings.live.maxIterations

/-- Works out the timeline of a sketch without running it. -/
def replay (g : Grader α) (source : Text) (iterations : Int) : Traced (Program × Sequence) :=
  (Traced.ofReported (Program.read source)).andThen fun p =>
    (Traced.ofReported
      (Replay.extract g.settings.usablePins g.settings.limits p iterations)).andThen
      fun s => .done (p, s)

/-- The remembered target timeline of a level number. -/
def remembered? (g : Grader α) (id : Int) : Option Sequence :=
  (g.targets.find? fun entry => entry.1 == id).map (·.2)

/-- The target timeline of a level, worked out at most once for a level number. -/
def target (g : Grader α) (level : Level) : Traced Sequence × Grader α :=
  match g.remembered? level.id with
  | some s => (.done s, g)
  | none =>
    let traced := g.replay level.targetCode.toList level.validationLoops
    match traced.outcome with
    | .error halt => (⟨.error halt, traced.marks⟩, g)
    | .ok (_, s) => (⟨.ok s, traced.marks⟩, { g with targets := (level.id, s) :: g.targets })

/-- What came of a submission, or the fault that ended it and the number of passes before it. -/
abbrev Attempt (β : Type) := Except (Fault × Nat) β

/-- Takes a learner's mistake as the end of an attempt; a breakdown stays one. -/
def attempt {β : Type} (x : Traced β) : Traced (Attempt β) :=
  match x.outcome with
  | .ok a => ⟨.ok (.ok a), x.marks⟩
  | .error (.fault f) => ⟨.ok (.error (f, 0)), x.marks⟩
  | .error (.breakdown b) => ⟨.error (.breakdown b), x.marks⟩

/-- A live run as an attempt: the timeline and the number of passes. -/
def attemptOfRun (run : Live.Run) : Traced (Attempt (Sequence × Int)) :=
  match run.result with
  | .error b => ⟨.error (.breakdown b), run.marks⟩
  | .ok r =>
    match r.fault with
    | some f => ⟨.ok (.error (f, r.iterations)), run.marks⟩
    | none => ⟨.ok (.ok (r.sequence, r.iterations)), run.marks⟩

def attemptLive (setup : Live.Setup) (level : Level) (source : Text) :
    Traced (Attempt (Sequence × Int)) :=
  (attempt (.ofReported (Program.read source))).andThen fun read =>
    match read with
    | .error e => .done (.error e)
    | .ok p => attemptOfRun (Live.run setup {} p (some level.validationLoops))

def attemptStatic (g : Grader α) (level : Level) (source : Text) :
    Traced (Attempt (Sequence × Int)) :=
  attempt ((g.replay source level.validationLoops).andThen fun (p, s) =>
    .done (s, if p.isLooping then level.validationLoops else 0))

def grade (g : Grader α) (level : Level) (target : Sequence) (tolerance : Option Int)
    (attempt : Attempt (Sequence × Int)) : Traced Grade :=
  match attempt with
  | .error (fault, iterations) =>
    ⟨.ok ⟨level.id, target, {}, {}, some fault, iterations⟩,
      [.notice (.rejected level.id fault.message)]⟩
  | .ok (candidate, iterations) =>
    (Traced.ofReported (Verdict.compare g.settings.compare target candidate tolerance)).andThen
      fun verdict => .done ⟨level.id, target, candidate, verdict, none, iterations⟩

/-- How a submission is run: live with the given setup, or replayed. -/
inductive Mode where
  | live (setup : Live.Setup)
  | static

def check (g : Grader α) (level : Level) (source : Text) (mode : Mode) (tolerance : Option Int) :
    Traced Grade × Grader α :=
  let (target, g) := g.target level
  let graded := target.andThen fun target =>
    (match mode with
      | .live setup => attemptLive setup level source
      | .static => g.attemptStatic level source).andThen fun attempt =>
        g.grade level target tolerance attempt
  (graded, g)

end Grader

end SketchGrader
