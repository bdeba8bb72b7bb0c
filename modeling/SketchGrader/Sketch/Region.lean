import SketchGrader.Text.Basic

/-!
# Code, strings and comments

Every character of a source belongs to code, to a string or to a comment. Quotes and comment marks
count only where code stands; a string ends at its quote or at the end of the line, unless the line
end is escaped.
-/

namespace SketchGrader

/-- What a character belongs to. -/
inductive Region where
  | code
  | string
  | comment
  deriving DecidableEq, Repr

/-- What the characters read so far leave open. -/
inductive ReadState where
  | code
  | string (quote : Char) (escaped : Bool)
  | lineComment
  /-- The star that opens the comment comes next. -/
  | blockOpening
  /-- Inside a block comment; `starred` tells whether a star that may close stands in front. -/
  | block (starred : Bool)
  deriving DecidableEq, Repr

/-- The region of a character and the state behind it. `next` is the character that follows. -/
def ReadState.step (state : ReadState) (c : Char) (next : Option Char) : Region × ReadState :=
  match state with
  | code =>
    if c == '/' && next == some '/' then (.comment, lineComment)
    else if c == '/' && next == some '*' then (.comment, blockOpening)
    else if c == '"' || c == '\'' then (.string, string c false)
    else (.code, code)
  | string quote escaped =>
    if escaped then (.string, string quote false)
    else if c == '\\' then (.string, string quote true)
    else if c == quote || c == '\n' then (.string, code)
    else (.string, string quote false)
  | lineComment => if c == '\n' then (.code, code) else (.comment, lineComment)
  | blockOpening => (.comment, block false)
  | block starred =>
    if c == '/' && starred then (.comment, code) else (.comment, block (c == '*'))

/-- A character of a source with its region and its place, both counted from 1. -/
structure Glyph where
  char : Char
  region : Region
  line : Nat
  column : Nat
  deriving DecidableEq, Repr

namespace Source

/-- The glyphs of a text that begins in the given state at the given place. -/
def glyphsFrom (state : ReadState) (line column : Nat) : Text → List Glyph
  | [] => []
  | c :: rest =>
    let (region, behind) := state.step c rest.head?
    ⟨c, region, line, column⟩ ::
      (if c = '\n' then glyphsFrom behind (line + 1) 1 rest
        else glyphsFrom behind line (column + 1) rest)

def glyphs (source : Text) : List Glyph := glyphsFrom .code 1 1 source

/-- The character that takes the place of a glyph when comments are blanked. -/
def uncommented (g : Glyph) : Char :=
  if g.region = .comment ∧ g.char ≠ '\n' then ' ' else g.char

/-- The source with every comment blanked out. Line ends stay, so lines keep their numbers. -/
def stripComments (source : Text) : Text := (glyphs source).map uncommented

end Source

end SketchGrader
