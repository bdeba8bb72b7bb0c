import SketchGrader.Sketch.Fault
import SketchGrader.Sketch.Region

/-!
# Brackets

Parentheses, square brackets and braces of the code have to be balanced. The check reads from left
to right and keeps the open brackets on a stack.
-/

namespace SketchGrader.Bracket

/-- The bracket that closes an opening one. -/
def closer? (c : Char) : Option Char :=
  if c == '{' then some '}' else if c == '(' then some ')' else if c == '[' then some ']' else none

def isCloser (c : Char) : Bool := c == '}' || c == ')' || c == ']'

/-- A misplaced bracket: what is wrong, and the glyph that is pointed at. -/
structure Misplaced where
  mistake : BracketMistake
  glyph : Glyph
  deriving DecidableEq, Repr

/-- Looks for a misplaced bracket. `stack` holds the open ones, each with the one that closes it,
the innermost first. -/
def findFrom : List (Glyph × Char) → List Glyph → Option Misplaced
  | [], [] => none
  | (opener, _) :: _, [] => some ⟨.openLeft opener.char, opener⟩
  | stack, g :: rest =>
    if g.region = .code then
      match closer? g.char with
      | some c => findFrom ((g, c) :: stack) rest
      | none =>
        if isCloser g.char then
          match stack with
          | [] => some ⟨.extraCloser g.char, g⟩
          | (_, expected) :: outer =>
            if g.char = expected then findFrom outer rest
            else some ⟨.wrongCloser expected g.char, g⟩
        else findFrom stack rest
    else findFrom stack rest

def Misplaced.fault (m : Misplaced) : Fault := ⟨m.glyph.line, .brackets m.mistake m.glyph.column⟩

/-- Accepts a source whose brackets are balanced. -/
def check (source : Text) : Except Fault Unit :=
  match findFrom [] (Source.glyphs source) with
  | none => .ok ()
  | some misplaced => .error misplaced.fault

end SketchGrader.Bracket
