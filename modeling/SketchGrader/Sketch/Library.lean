import SketchGrader.Sketch.Fault
import SketchGrader.Sketch.Region
import SketchGrader.Text.Pattern

/-!
# Included libraries

A line that names a timer's method has to come after the line that includes the timer's library.
-/

namespace SketchGrader.Library

open Text

/-- The header that a line includes, as written. -/
def included? (line : Text) : Option Text := do
  let rest ← afterBlanksAnd ['#'] line
  let rest ← afterBlanksAnd "include".toList rest
  match trimLeft rest with
  | c :: rest =>
    if c == '<' || c == '"' then
      let (header, rest) ← run (fun c => isWord c || c == '.') (trimLeft rest)
      match trimLeft rest with
      | e :: _ => if e == '>' || e == '"' then some header else none
      | [] => none
    else none
  | [] => none

/-- Whether a line names a method of the timer. -/
def mentions (timer : Timer) (line : Text) : Bool :=
  hasPart (lower timer.label.toList ++ ['.']) (lower line)

/-- The first timer that a line mentions without its library being among the `headers`. -/
def missing? (headers : List Text) (line : Text) : Option Timer :=
  Timer.all.find? fun timer => mentions timer line && !headers.contains (lower timer.header.toList)

/-- Checks lines from the given number on; `headers` holds what is included so far. -/
def checkFrom (headers : List Text) (number : Nat) : List Text → Except Fault Unit
  | [] => .ok ()
  | line :: rest =>
    match included? line with
    | some header => checkFrom (lower header :: headers) (number + 1) rest
    | none =>
      match missing? headers line with
      | some timer => .error ⟨number, .missingLibrary timer⟩
      | none => checkFrom headers (number + 1) rest

/-- Accepts a source that includes every library before it is used. -/
def check (source : Text) : Except Fault Unit :=
  checkFrom [] 1 (lines (Source.stripComments source))

end SketchGrader.Library
