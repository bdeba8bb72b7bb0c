import SketchGrader.Sketch.Fault
import SketchGrader.Text.Basic

/-!
# Programs

A program is what a sketch consists of once its two bodies are cut out: the body that runs once and
the body that repeats, each with the source line it begins in.
-/

namespace SketchGrader

inductive Body where
  | setup
  | loop
  deriving DecidableEq, Repr

def Body.name : Body → String
  | setup => "setup"
  | loop => "loop"

/-- The bodies of a sketch and where they begin. -/
structure Program where
  setupBody : Text := []
  loopBody : Text := []
  setupLine : Int := 1
  loopLine : Int := 1
  /-- The bodies that the sketch does not have. -/
  absent : List Body := []
  deriving DecidableEq, Repr

namespace Program

def body (p : Program) : Body → Text
  | .setup => p.setupBody
  | .loop => p.loopBody

/-- The source line in which a body begins. -/
def firstLine (p : Program) : Body → Int
  | .setup => p.setupLine
  | .loop => p.loopLine

/-- Pairs trimmed lines with their numbers, leaving out the blank ones and whole-line comments. -/
def numbered (line : Int) : List Text → List (Int × Text)
  | [] => []
  | raw :: rest =>
    let text := Text.trim raw
    if text.isEmpty || ['/', '/'].isPrefixOf text then numbered (line + 1) rest
    else (line, text) :: numbered (line + 1) rest

/-- The lines of a body that may hold a statement, with their source lines. -/
def statementLines (p : Program) (b : Body) : List (Int × Text) :=
  numbered (p.firstLine b) (Text.lines (p.body b))

/-- Whether there is anything to repeat. -/
def isLooping (p : Program) : Bool := !(Text.trim p.loopBody).isEmpty

end Program

end SketchGrader
