import SketchGrader.Log.Notice
import SketchGrader.Sketch.Bracket
import SketchGrader.Sketch.Library
import SketchGrader.Sketch.PinUse
import SketchGrader.Sketch.Program

/-!
# Reading a sketch

A sketch is checked for blankness, brackets and libraries, its bodies are cut out of the source
without comments, and the use of pins is checked. The first check that fails gives the fault.
-/

namespace SketchGrader

namespace Source

open Text

/-- The rest behind the opening brace of a body's header. -/
def header? (b : Body) (t : Text) : Option (Unit × Text) := do
  let rest ← after "void".toList t
  let rest ← afterBlanks rest
  let rest ← after b.name.toList rest
  let rest ← afterBlanksAnd ['('] rest
  let inside := trimLeft rest
  let rest ← afterBlanksAnd [')'] ((after "void".toList inside).getD inside)
  let rest ← afterBlanksAnd ['{'] rest
  return ((), rest)

/-- The text up to the brace that closes `depth` open ones, or all of it. Braces between quotes do
not count; a quote behind a backslash does not close. -/
def blockText (depth : Nat) (quote : Option Char) (before : Char) : Text → Text
  | [] => []
  | c :: rest =>
    match quote with
    | some q =>
      if c == q && before != '\\' then c :: blockText depth none c rest
      else c :: blockText depth (some q) c rest
    | none =>
      if c == '"' || c == '\'' then c :: blockText depth (some c) c rest
      else if c == '{' then c :: blockText (depth + 1) none c rest
      else if c == '}' then
        if depth ≤ 1 then [] else c :: blockText (depth - 1) none c rest
      else c :: blockText depth none c rest

/-- A body in a source without comments, and the line it begins in. -/
def body? (b : Body) (clean : Text) : Option (Text × Int) :=
  (findWord (header? b) none clean).map fun (_, rest) =>
    (blockText 1 none '{' rest, 1 + (clean.count '\n' : Int) - (rest.count '\n' : Int))

/-- The program in a source without comments, before the use of pins is checked. -/
def program (clean : Text) : Except Fault Program :=
  match body? .setup clean, body? .loop clean with
  | none, none => .error ⟨0, .missingEntryPoints⟩
  | some (s, sl), some (l, ll) => .ok ⟨s, l, sl, ll, []⟩
  | some (s, sl), none => .ok ⟨s, [], sl, 1, [.loop]⟩
  | none, some (l, ll) => .ok ⟨[], l, 1, ll, [.setup]⟩

/-- The program of a source as far as it can be cut out. -/
def draft (source : Text) : Except Fault Program := do
  if (trim source).isEmpty then .error ⟨0, .emptySource⟩
  Bracket.check source
  Library.check source
  program (stripComments source)

end Source

/-- The outcome of an activity together with what it reported. -/
structure Reported (α : Type) where
  outcome : Except Halt α
  notices : List Notice

namespace Program

/-- Reads a sketch and reports missing bodies and success. -/
def read (source : Text) : Reported Program :=
  match Source.draft source with
  | .error fault => ⟨.error (.fault fault), []⟩
  | .ok p =>
    let warnings := p.absent.map Notice.bodyAbsent
    match PinUse.check p with
    | .error halt => ⟨.error halt, warnings⟩
    | .ok () => ⟨.ok p, warnings ++ [.parsed p.setupLine p.loopLine]⟩

def ofSource (source : Text) : Except Halt Program := (read source).outcome

end Program

end SketchGrader
