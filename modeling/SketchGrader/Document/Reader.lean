import SketchGrader.Document.Datum
import SketchGrader.Number.Double
import SketchGrader.Text.Basic

/-!
# Reading documents

Documents are written in the notation of nested brackets, braces and double quotes. In a data file
an exponent needs a decimal point before it and a sign, otherwise the numeral is text; on the wire
it needs neither.
-/

namespace SketchGrader.Datum

/-- Whether a number with an exponent also needs a decimal point and a sign of the exponent. -/
inductive Dialect where
  | wire
  | dataFile
  deriving DecidableEq, Repr

/-- Drops the white space between the parts of a document. -/
def skipSpace (t : Text) : Text :=
  t.dropWhile fun c => c == ' ' || c == '\n' || c == '\t' || c == '\r'

def hexValue? (c : Char) : Option Nat :=
  let n := c.toNat
  if 48 ≤ n && n ≤ 57 then some (n - 48)
  else if 97 ≤ n && n ≤ 102 then some (n - 87)
  else if 65 ≤ n && n ≤ 70 then some (n - 55)
  else none

/-- The value of four hexadecimal digits, and the rest. -/
def hexUnit? : Text → Option (Nat × Text)
  | a :: b :: c :: d :: rest => do
    let value := 4096 * (← hexValue? a) + 256 * (← hexValue? b) + 16 * (← hexValue? c)
      + (← hexValue? d)
    return (value, rest)
  | _ => none

/-- The character behind a backslash and `u`, which may be written as a pair of halves; a lone half
is shown as the replacement character. -/
def unitChar? (t : Text) : Option (Char × Text) := do
  let (high, rest) ← hexUnit? t
  if 0xD800 ≤ high && high < 0xDC00 then
    match rest with
    | '\\' :: 'u' :: more =>
      match hexUnit? more with
      | some (low, behind) =>
        if 0xDC00 ≤ low && low < 0xE000 then
          return (Char.ofNat (0x10000 + (high - 0xD800) * 0x400 + (low - 0xDC00)), behind)
        else return (Char.ofNat 0xFFFD, rest)
      | none => return (Char.ofNat 0xFFFD, rest)
    | _ => return (Char.ofNat 0xFFFD, rest)
  else if 0xDC00 ≤ high && high < 0xE000 then return (Char.ofNat 0xFFFD, rest)
  else return (Char.ofNat high, rest)

def escape? : Text → Option (Char × Text)
  | 'n' :: rest => some ('\n', rest)
  | 't' :: rest => some ('\t', rest)
  | 'r' :: rest => some ('\r', rest)
  | 'b' :: rest => some (Char.ofNat 8, rest)
  | 'f' :: rest => some (Char.ofNat 12, rest)
  | 'u' :: rest => unitChar? rest
  | c :: rest => if c == '"' || c == '\\' || c == '/' then some (c, rest) else none
  | [] => none

/-- The text up to the closing quote, and the rest. -/
def quotedText (fuel : Nat) (t : Text) : Option (Text × Text) :=
  match fuel, t with
  | _, '"' :: rest => some ([], rest)
  | fuel + 1, '\\' :: more => do
    let (c, rest) ← escape? more
    let (found, behind) ← quotedText fuel rest
    return (c :: found, behind)
  | fuel + 1, c :: rest => do
    let (found, behind) ← quotedText fuel rest
    return (c :: found, behind)
  | _, _ => none

/-- The digits of an exponent with their sign, and the rest. -/
def exponent? (t : Text) : Option (Int × Text) :=
  let (negative, digits) := match t with
    | '-' :: rest => (true, rest)
    | '+' :: rest => (false, rest)
    | rest => (false, rest)
  match digits.takeWhile Char.isDigit with
  | [] => none
  | found =>
    let size : Int := Text.natOfDigits found
    some (if negative then -size else size, digits.dropWhile Char.isDigit)

def number? (dialect : Dialect) (t : Text) : Option (Datum × Text) := do
  let (negative, unsigned) := match t with
    | '-' :: rest => (true, rest)
    | rest => (false, rest)
  let whole := unsigned.takeWhile Char.isDigit
  let behind := unsigned.dropWhile Char.isDigit
  if whole.isEmpty then none
  else
    let (fraction, pointed, behind) := match behind with
      | '.' :: more => (more.takeWhile Char.isDigit, true, more.dropWhile Char.isDigit)
      | rest => ([], false, rest)
    let (exponent, signed, behind) := match behind with
      | 'e' :: more | 'E' :: more =>
        match exponent? more with
        | some (e, rest) => (some e, more.head? == some '-' || more.head? == some '+', rest)
        | none => (none, false, behind)
      | rest => (none, false, rest)
    let digits := Text.natOfDigits (whole ++ fraction)
    let value : Datum :=
      if !pointed && exponent.isNone then .int (if negative then -(digits : Int) else digits)
      else if dialect == .dataFile && exponent.isSome && !(pointed && signed) then
        .text (String.ofList (t.take (t.length - behind.length)))
      else .real (floatOfDecimal negative digits (exponent.getD 0 - fraction.length))
    return (value, behind)

mutual

def datum? (dialect : Dialect) (fuel : Nat) (t : Text) : Option (Datum × Text) :=
  match fuel with
  | 0 => none
  | fuel + 1 =>
    match skipSpace t with
    | 'n' :: 'u' :: 'l' :: 'l' :: rest => some (.null, rest)
    | 't' :: 'r' :: 'u' :: 'e' :: rest => some (.bool true, rest)
    | 'f' :: 'a' :: 'l' :: 's' :: 'e' :: rest => some (.bool false, rest)
    | '"' :: rest => (quotedText rest.length rest).map fun (s, behind) =>
      (.text (String.ofList s), behind)
    | '[' :: rest =>
      match skipSpace rest with
      | ']' :: behind => some (.list [], behind)
      | _ => (items? dialect fuel rest).map fun (items, behind) => (.list items, behind)
    | '{' :: rest =>
      match skipSpace rest with
      | '}' :: behind => some (.record [], behind)
      | _ => (fields? dialect fuel rest).map fun (fields, behind) => (.record fields, behind)
    | other => number? dialect other

/-- The items of a list up to its closing bracket, and the rest. -/
def items? (dialect : Dialect) (fuel : Nat) (t : Text) : Option (List Datum × Text) :=
  match fuel with
  | 0 => none
  | fuel + 1 => do
    let (item, rest) ← datum? dialect fuel t
    match skipSpace rest with
    | ',' :: more =>
      let (items, behind) ← items? dialect fuel more
      return (item :: items, behind)
    | ']' :: behind => return ([item], behind)
    | _ => none

/-- The fields of a record up to its closing brace, and the rest. -/
def fields? (dialect : Dialect) (fuel : Nat) (t : Text) :
    Option (List (String × Datum) × Text) :=
  match fuel with
  | 0 => none
  | fuel + 1 => do
    let (name, rest) ← match skipSpace t with
      | '"' :: more => quotedText more.length more
      | _ => none
    let (value, rest) ← match skipSpace rest with
      | ':' :: more => datum? dialect fuel more
      | _ => none
    let entry := (String.ofList name, value)
    match skipSpace rest with
    | ',' :: more =>
      let (fields, behind) ← fields? dialect fuel more
      return (entry :: fields, behind)
    | '}' :: behind => return ([entry], behind)
    | _ => none

end

/-- The datum that a whole text denotes. -/
def parse? (dialect : Dialect) (t : Text) : Option Datum := do
  let (value, rest) ← datum? dialect (2 * t.length + 2) t
  if (skipSpace rest).isEmpty then return value else none

/-- The content of a data file: nothing if it is blank, the text itself if it is no document. -/
def ofFile (t : Text) : Datum :=
  if (Text.trim t).isEmpty then .null
  else (parse? .dataFile t).getD (.text (String.ofList (Text.trim t)))

end SketchGrader.Datum
