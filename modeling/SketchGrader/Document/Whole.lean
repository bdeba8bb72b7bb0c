import SketchGrader.Document.Display
import SketchGrader.Number.Double
import SketchGrader.Sketch.Fault
import SketchGrader.Text.Basic

/-!
# Whole numbers in documents

Where a stored timeline needs a whole number, a truth value counts as 0 or 1, a fraction is cut off,
and a text may hold a numeral with a sign, single underscores between digits and blanks around it.
-/

namespace SketchGrader

inductive WholeError where
  | notNumeric (kind : String)
  | badNumeral (written : String)
  | breakdown (breakdown : Breakdown)
  deriving DecidableEq, Repr

/-- The message of the error. A long text is cut off. -/
def WholeError.message : WholeError → String
  | notNumeric kind =>
    s!"int() argument must be a string, a bytes-like object or a real number, not '{kind}'"
  | badNumeral written =>
    let shown := String.ofList ((Text.quoted written.toList).take 200)
    s!"invalid literal for int() with base 10: {shown}"
  | breakdown b => b.message

namespace Whole

open Text

/-- The digits of a numeral that may have single underscores between them, and the rest. The flag
tells whether a digit stands in front. -/
def digitRun (behindDigit : Bool) : Text → Option (Text × Text)
  | [] => if behindDigit then some ([], []) else none
  | c :: rest =>
    if isDigit c then (digitRun true rest).map fun (digits, behind) => (c :: digits, behind)
    else if c == '_' then if behindDigit then digitRun false rest else none
    else if behindDigit then some ([], c :: rest)
    else none

/-- The number that a numeral denotes. The number of digits is checked before what follows them. -/
def ofText (written : String) : Except WholeError Int :=
  let t := dropMargin written.toList
  let unsigned := if t.head? == some '-' || t.head? == some '+' then t.tail else t
  match digitRun false unsigned with
  | none => .error (.badNumeral written)
  | some (digits, behind) =>
    if digits.length > numeralLimit then .error (.breakdown (.numeralTooLong digits.length))
    else if !(dropMargin behind).isEmpty then .error (.badNumeral written)
    else if t.head? == some '-' then .ok (-(natOfDigits digits : Int))
    else .ok (natOfDigits digits)

def ofFloat (x : Float) : Except WholeError Int :=
  match exactValue? x with
  | some q => .ok (truncate q)
  | none => .error (.breakdown (if x.isNaN then .undefinedResult else .infiniteResult))

end Whole

def Datum.toWhole : Datum → Except WholeError Int
  | bool value => .ok (if value then 1 else 0)
  | int value => .ok value
  | real value => Whole.ofFloat value
  | text value => Whole.ofText value
  | other => .error (.notNumeric other.kindName)

end SketchGrader
