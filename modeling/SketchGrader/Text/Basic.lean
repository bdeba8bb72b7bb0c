/-!
# Text, blanks and digits

Source text, single lines and tokens are lists of characters, so every length and column counts
code points. A blank is a character that separates tokens and that trimming removes. Every script's
decimal digits count as digits; they come in runs of ten consecutive code points, zero first, so a
list of the zeros is enough. Larger sets of code points are kept as the sorted list of the places
where membership changes: the first code point of a run, then the first one after it, and so on.
-/

namespace SketchGrader

/-- A text, character by character. -/
abbrev Text := List Char

namespace Text

/-! ## Blanks and pieces -/

/-- White space: the control characters from tab to carriage return, the four separators below the
space, the space itself, next line, and the spaces and line separators beyond ASCII. -/
def isBlank (c : Char) : Bool :=
  let n := c.toNat
  (9 ≤ n && n ≤ 13) || (28 ≤ n && n ≤ 32) || n == 0x85 || n == 0xA0 || n == 0x1680 ||
    (0x2000 ≤ n && n ≤ 0x200A) || n == 0x2028 || n == 0x2029 || n == 0x202F || n == 0x205F ||
    n == 0x3000

def trimLeft (t : Text) : Text := t.dropWhile isBlank

def trimRight (t : Text) : Text := (t.reverse.dropWhile isBlank).reverse

def trim (t : Text) : Text := trimRight (trimLeft t)

/-- A blank that may stand around a numeral: any but the four separators below the space. -/
def isMargin (c : Char) : Bool := isBlank c && !(28 ≤ c.toNat && c.toNat ≤ 31)

/-- Drops the blanks that may stand in front of a numeral. -/
def dropMargin (t : Text) : Text := t.dropWhile isMargin

/-- Drops the blanks that may stand around a numeral. -/
def trimMargin (t : Text) : Text := (dropMargin (dropMargin t).reverse).reverse

/-- The pieces of a text, cut at every occurrence of a character; there is always at least one. -/
def split (separator : Char) : Text → List Text
  | [] => [[]]
  | c :: rest =>
    if c = separator then [] :: split separator rest
    else match split separator rest with
      | [] => [[c]]
      | piece :: more => (c :: piece) :: more

/-- The lines of a text, cut at every line feed and nowhere else. -/
def lines (t : Text) : List Text := split '\n' t

/-- Whether `part` occurs in `t` as a contiguous piece. -/
def hasPart (part : Text) : Text → Bool
  | [] => part.isEmpty
  | c :: rest => part.isPrefixOf (c :: rest) || hasPart part rest

def padRight (width : Nat) (t : Text) : Text := t ++ List.replicate (width - t.length) ' '

def padLeft (width : Nat) (t : Text) : Text := List.replicate (width - t.length) ' ' ++ t

/-! ## Sets of code points -/

/-- Membership in the set that changes at each listed code point, beginning outside. -/
def inRuns : List Nat → Nat → Bool
  | first :: after :: rest, n => if n < first then false else n < after || inRuns rest n
  | [first], n => first ≤ n
  | [], _ => false

/-! ## Decimal digits -/

/-- The zeros of the scripts beyond ASCII. -/
def scriptZeros : List Nat := [
  0x660, 0x6F0, 0x7C0, 0x966, 0x9E6, 0xA66, 0xAE6, 0xB66, 0xBE6, 0xC66, 0xCE6, 0xD66, 0xDE6,
  0xE50, 0xED0, 0xF20, 0x1040, 0x1090, 0x17E0, 0x1810, 0x1946, 0x19D0, 0x1A80, 0x1A90, 0x1B50,
  0x1BB0, 0x1C40, 0x1C50, 0xA620, 0xA8D0, 0xA900, 0xA9D0, 0xA9F0, 0xAA50, 0xABF0, 0xFF10,
  0x104A0, 0x10D30, 0x11066, 0x110F0, 0x11136, 0x111D0, 0x112F0, 0x11450, 0x114D0, 0x11650,
  0x116C0, 0x11730, 0x118E0, 0x11950, 0x11C50, 0x11D50, 0x11DA0, 0x16A60, 0x16AC0, 0x16B50,
  0x1D7CE, 0x1D7D8, 0x1D7E2, 0x1D7EC, 0x1D7F6, 0x1E140, 0x1E2F0, 0x1E950, 0x1FBF0]

def digitValue? (c : Char) : Option Nat :=
  let n := c.toNat
  if n < 128 then
    if 48 ≤ n && n ≤ 57 then some (n - 48) else none
  else
    (scriptZeros.find? fun start => start ≤ n && n < start + 10).map (n - ·)

def isDigit (c : Char) : Bool := (digitValue? c).isSome

/-- The number that a run of digits denotes; other characters count as zero. -/
def natOfDigits (digits : Text) : Nat :=
  digits.foldl (fun acc c => 10 * acc + (digitValue? c).getD 0) 0

end Text

end SketchGrader
