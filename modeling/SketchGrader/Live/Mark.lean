import SketchGrader.Log.Notice
import SketchGrader.Sketch.Statement

/-!
# Marks of a live run

A live run leaves a trace of marks: what it executed, recorded and waited for, in order. Whoever
watches it may ask it to stop at a mark.
-/

namespace SketchGrader

/-- What happens in a live run. -/
inductive Mark where
  /-- A statement at a line has been executed; `lights` shows which pins are on. -/
  | statement (line : Int) (statement : Statement) (lights : List (Int × Bool))
  | event (event : Event)
  /-- The loop body has been run to its end for the `count`-th time. -/
  | iteration (count : Nat)
  | pause (ms : Int)
  | halted (fault : Fault)
  | notice (notice : Notice)
  deriving DecidableEq, Repr

def Mark.notices (marks : List Mark) : List Notice :=
  marks.filterMap fun mark => match mark with
    | .notice n => some n
    | _ => none

/-- The marks at which a stop may be asked for. -/
inductive MarkKind where
  | statement
  | event
  | iteration
  | halted
  | pause
  deriving DecidableEq, Repr

/-- When a stop is asked for: for each kind, how many more marks of it have to come, the last of
them included. -/
structure StopPlan where
  statement : Option Nat := none
  event : Option Nat := none
  iteration : Option Nat := none
  halted : Option Nat := none
  pause : Option Nat := none
  deriving DecidableEq, Repr

namespace StopPlan

def remaining (p : StopPlan) : MarkKind → Option Nat
  | .statement => p.statement
  | .event => p.event
  | .iteration => p.iteration
  | .halted => p.halted
  | .pause => p.pause

def withRemaining (p : StopPlan) (kind : MarkKind) (count : Option Nat) : StopPlan :=
  match kind with
  | .statement => { p with statement := count }
  | .event => { p with event := count }
  | .iteration => { p with iteration := count }
  | .halted => { p with halted := count }
  | .pause => { p with pause := count }

/-- Counts a mark: whether it is the one at which a stop is asked for, and the plan from then on. -/
def see (p : StopPlan) (kind : MarkKind) : Bool × StopPlan :=
  match p.remaining kind with
  | some (n + 1) => (n == 0, p.withRemaining kind (if n == 0 then none else some n))
  | _ => (false, p)

end StopPlan

end SketchGrader
