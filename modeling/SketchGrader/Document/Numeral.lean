import SketchGrader.Number.Double
import SketchGrader.Sketch.Fault
import SketchGrader.Text.Basic

/-!
# Numbers written as text

Where a document has a text in the place of a number, the text may still denote one. A whole number
may have blanks around it, a sign, zeros in front, single underscores inside, and a point with zeros
behind it. A decimal may have blanks around it or single underscores inside, and not both.
-/

namespace SketchGrader.Numeral

open Text

def isPlainDigit (c : Char) : Bool := 48 ≤ c.toNat && c.toNat ≤ 57

/-- The text without underscores, which may only stand alone and inside. The flag tells whether
another character stands in front. -/
def dropUnderscores (behindOther : Bool) : Text → Option Text
  | [] => if behindOther then some [] else none
  | c :: rest =>
    if c == '_' then if behindOther then dropUnderscores false rest else none
    else (dropUnderscores true rest).map (c :: ·)

/-- The text without a decimal point that zeros, and nothing else, follow. -/
def dropPoint (t : Text) : Text :=
  match t.dropWhile (· != '.') with
  | '.' :: '0' :: zeros => if zeros.all (· == '0') then t.takeWhile (· != '.') else t
  | _ => t

/-- What may be left out behind a zero in front of a number. -/
def isPadding (c : Char) : Bool := c == '0' || c == '_'

/-- The text from its first digit but zero on, or from a minus sign behind the zeros. Where the
zeros end the text or stand before the point, the last character passed over stays. -/
def dropZeros : Text → Option Text
  | [] => none
  | '0' :: rest =>
    let last := (rest.takeWhile isPadding).getLast?.getD '0'
    match rest.dropWhile isPadding with
    | [] => some [last]
    | '.' :: more => some (last :: '.' :: more)
    | c :: more => if isPlainDigit c || c == '-' then some (c :: more) else none
  | c :: rest => if isPlainDigit c then some (c :: rest) else none

/-- The number with the given digits, of which there is a limited number and none is a zero in
front. -/
def ofDigits? (digits : Text) : Option Nat :=
  if digits.isEmpty || !digits.all isPlainDigit then none
  else if digits.length > 1 && digits.head? == some '0' then none
  else if digits.length > numeralLimit then none
  else some (natOfDigits digits)

/-- The whole number that a text without any decoration but a minus sign denotes. -/
def plain? : Text → Option Int
  | '-' :: digits => (ofDigits? digits).map fun n => -(n : Int)
  | digits => (ofDigits? digits).map Int.ofNat

def int? (t : Text) : Option Int :=
  let (negative, unsigned) := match trimMargin t with
    | '+' :: rest => (false, rest)
    | '-' :: rest => (true, rest)
    | rest => (false, rest)
  match ((dropZeros unsigned).map dropPoint).bind (dropUnderscores false) with
  | none => none
  | some cleaned => plain? (if negative then '-' :: cleaned else cleaned)

/-- Whether a text starts, behind an optional minus sign, with more digits than a number may have,
the first of them not a zero. -/
def startsTooLong (t : Text) : Bool :=
  let unsigned := if t.head? == some '-' then t.tail else t
  let digits := unsigned.takeWhile isPlainDigit
  digits.head? != some '0' && digits.length > numeralLimit

/-- A character with an ASCII capital in lower case. -/
def asciiLower (c : Char) : Char :=
  if 65 ≤ c.toNat && c.toNat ≤ 90 then Char.ofNat (c.toNat + 32) else c

/-- The number that a text denotes: a decimal with an optional point and exponent, an infinity or
the undefined number. -/
def decimal? (t : Text) : Option Float := do
  let (negative, unsigned) := match t with
    | '-' :: rest => (true, rest)
    | '+' :: rest => (false, rest)
    | rest => (false, rest)
  let word := unsigned.map asciiLower
  if word == "inf".toList || word == "infinity".toList then
    return if negative then -1.0 / 0.0 else 1.0 / 0.0
  else if word == "nan".toList then return 0.0 / 0.0
  else
    let whole := unsigned.takeWhile isPlainDigit
    let (fraction, behind) := match unsigned.dropWhile isPlainDigit with
      | '.' :: rest => (rest.takeWhile isPlainDigit, rest.dropWhile isPlainDigit)
      | rest => ([], rest)
    let digits := whole ++ fraction
    if digits.isEmpty then none
    else
      let exponent ← match behind with
        | [] => some (0 : Int)
        | mark :: rest =>
          if mark == 'e' || mark == 'E' then
            let unsigned := if rest.head? == some '-' || rest.head? == some '+' then rest.tail
              else rest
            if unsigned.isEmpty || !unsigned.all isPlainDigit then none
            else
              let size : Int := natOfDigits unsigned
              some (if rest.head? == some '-' then -size else size)
          else none
      return floatOfDecimal negative (natOfDigits digits) (exponent - fraction.length)

def float? (t : Text) : Option Float :=
  match decimal? (trimMargin t) with
  | some x => some x
  | none => (dropUnderscores false t).bind decimal?

/-- The machine number nearest to a whole number; `none` if that is beyond the largest one. -/
def floatOfInt? (n : Int) : Option Float :=
  let x := floatOfDecimal (decide (n < 0)) n.natAbs 0
  if x.isInf then none else some x

end SketchGrader.Numeral
