import SketchGrader.Sketch.Program
import SketchGrader.Sketch.Token
import SketchGrader.Text.Pattern

/-!
# Declared pins

Before anything runs, every pin that a sketch writes or reads has to be declared with the matching
direction in the setup body, and the retired analog write must not occur. The check goes by the
written text of the lines, wherever on a line a call stands.
-/

namespace SketchGrader.PinUse

open Text

/-- A call with a pin as its first argument, as found in a line. -/
structure Use where
  call : Text
  pin : Text
  deriving DecidableEq, Repr

/-- The pin behind an opening parenthesis, and the rest without blanks in front. -/
def firstPin? (t : Text) : Option (Text × Text) := do
  let rest ← afterBlanksAnd ['('] t
  let (digits, rest) ← run isDigit (trimLeft rest)
  return (digits, trimLeft rest)

/-- The rest after the first of the names, in any case. -/
def afterAny (names : List String) (t : Text) : Option Text :=
  names.findSome? fun name => afterAnyCase name.toList t

/-- A declaration of a pin's direction: the pin as written, and the direction in upper case. -/
def declaration? (t : Text) : Option ((Text × Text) × Text) := do
  let rest ← afterAnyCase "pinmode".toList t
  let (pin, rest) ← firstPin? rest
  let rest ← after [','] rest
  let behind ← afterAny ["input", "output"] (trimLeft rest)
  let closed ← afterBlanksAnd [')'] behind
  return ((pin, upper (upTo (trimLeft rest) behind)), closed)

/-- A call that drives its first argument. -/
def outputUse? (t : Text) : Option (Use × Text) := do
  let rest ← afterAny ["digitalwrite", "setdutycycle", "timer0.pwm", "timer1.pwm"] t
  let (pin, behind) ← firstPin? rest
  let behind ← after [','] behind
  return (⟨upTo t rest, pin⟩, behind)

/-- A call that reads its only argument. -/
def inputUse? (t : Text) : Option (Use × Text) := do
  let rest ← afterAny ["digitalread", "analogread"] t
  let (pin, behind) ← firstPin? rest
  let behind ← after [')'] behind
  return (⟨upTo t rest, pin⟩, behind)

/-- The retired analog write, with the beginning of its first argument. -/
def legacyUse? (t : Text) : Option (Text × Text) := do
  let rest ← afterAnyCase "analogwrite".toList t
  let rest ← afterBlanksAnd ['('] rest
  run isWord (trimLeft rest)

/-- Reads pin numbers and keeps what goes with them. -/
def readPins {α : Type} : List (Text × α) → Except Breakdown (List (Int × α))
  | [] => .ok []
  | (digits, a) :: rest => do
    let pin ← Token.value digits
    return (pin, a) :: (← readPins rest)

def declarations (lines : List (Int × Text)) : Except Breakdown (List (Int × Text)) :=
  readPins (lines.flatMap fun line => findWords declaration? none line.2)

/-- Checks uses of pins that need the given direction. -/
def checkUses (declared : List (Int × Text)) (needed : Direction) (line : Int) :
    List Use → Except Halt Unit
  | [] => .ok ()
  | use :: rest =>
    match Token.value use.pin with
    | .error b => .error (.breakdown b)
    | .ok pin =>
      if declared.contains (pin, needed.name.toList) then checkUses declared needed line rest
      else .error (.fault ⟨line, .undeclaredUse pin (String.ofList use.call) needed⟩)

/-- Checks one line: the analog write, then the pins that are driven, then those that are read. -/
def checkLine (declared : List (Int × Text)) (line : Int × Text) : Except Halt Unit :=
  match findWord legacyUse? none line.2 with
  | some (pin, _) => .error (.fault ⟨line.1, .legacyWrite (String.ofList pin)⟩)
  | none => do
    checkUses declared .output line.1 (findWords outputUse? none line.2)
    checkUses declared .input line.1 (findWords inputUse? none line.2)

def checkLines (declared : List (Int × Text)) : List (Int × Text) → Except Halt Unit
  | [] => .ok ()
  | line :: rest => do
    checkLine declared line
    checkLines declared rest

/-- Accepts a program that uses only pins declared for it. -/
def check (p : Program) : Except Halt Unit :=
  match declarations (p.statementLines .setup) with
  | .error b => .error (.breakdown b)
  | .ok declared => checkLines declared (p.statementLines .setup ++ p.statementLines .loop)

end SketchGrader.PinUse
