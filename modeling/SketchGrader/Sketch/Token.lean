import SketchGrader.Sketch.Fault
import SketchGrader.Text.Basic
import SketchGrader.Text.Word

/-!
# Tokens of a line

A line is cut into numbers with an optional sign, names with at most one dotted part, and the
punctuation of calls. Blanks may stand in front of every token. A line with anything else has no
tokens at all.
-/

namespace SketchGrader

inductive TokenKind where
  | num
  | name
  | punct
  deriving DecidableEq, Repr

def TokenKind.label : TokenKind → String
  | num => "num"
  | name => "name"
  | punct => "punct"

structure Token where
  kind : TokenKind
  text : Text
  deriving DecidableEq, Repr

namespace Token

open Text

def mark (c : Char) : Token := ⟨.punct, [c]⟩

/-- The marks that calls are written with. -/
def isMark (c : Char) : Bool := c == '(' || c == ')' || c == ',' || c == ';'

/-- A name from a text that begins with one, and the rest: a word, and one more after a dot. -/
def spanName (t : Text) : Text × Text :=
  match t.dropWhile isWord with
  | '.' :: c :: rest =>
    if startsName c then
      (t.takeWhile isWord ++ '.' :: (c :: rest).takeWhile isWord, (c :: rest).dropWhile isWord)
    else (t.takeWhile isWord, '.' :: c :: rest)
  | rest => (t.takeWhile isWord, rest)

/-- The token that a text begins with, and the rest. -/
def next? : Text → Option (Token × Text)
  | [] => none
  | c :: rest =>
    if c == '-' || c == '+' then
      match rest.takeWhile isDigit with
      | [] => none
      | digits => some (⟨.num, c :: digits⟩, rest.dropWhile isDigit)
    else if isDigit c then
      some (⟨.num, c :: rest.takeWhile isDigit⟩, rest.dropWhile isDigit)
    else if startsName c then
      some (⟨.name, (spanName (c :: rest)).1⟩, (spanName (c :: rest)).2)
    else if isMark c then some (mark c, rest)
    else none

theorem ascii_of_startsName {c : Char} (h : startsName c = true) : c.toNat < 128 := by
  simp only [startsName, isAsciiLetter, Bool.or_eq_true, Bool.and_eq_true, decide_eq_true_eq,
    beq_iff_eq] at h
  rcases h with h | rfl
  · omega
  · decide

theorem isWord_of_startsName {c : Char} (h : startsName c = true) : isWord c = true := by
  simp [isWord, ascii_of_startsName h, h]

theorem length_spanName_lt {c : Char} (rest : Text) (h : startsName c = true) :
    (spanName (c :: rest)).2.length < (c :: rest).length := by
  have hw := isWord_of_startsName h
  have hd : (c :: rest).dropWhile isWord = rest.dropWhile isWord := by simp [hw]
  have hl := (rest.dropWhile_sublist isWord).length_le
  unfold spanName
  rw [hd]
  split
  next e more heq =>
    rw [heq] at hl
    split
    next =>
      have := ((e :: more).dropWhile_sublist isWord).length_le
      simp only [List.length_cons] at *
      omega
    next => simp only [List.length_cons] at *; omega
  next => simp only [List.length_cons]; omega

/-- Reading a token makes the text shorter. -/
theorem length_next? {t rest : Text} {token : Token} (h : next? t = some (token, rest)) :
    rest.length < t.length := by
  cases t with
  | nil => simp [next?] at h
  | cons c more =>
    have hd := (more.dropWhile_sublist isDigit).length_le
    simp only [next?] at h
    split at h
    · split at h
      · simp at h
      · simp only [Option.some.injEq, Prod.mk.injEq] at h
        simp only [← h.2, List.length_cons]; omega
    · split at h
      · simp only [Option.some.injEq, Prod.mk.injEq] at h
        simp only [← h.2, List.length_cons]; omega
      · split at h
        next hs =>
          simp only [Option.some.injEq, Prod.mk.injEq] at h
          rw [← h.2]
          exact length_spanName_lt more hs
        next =>
          split at h
          · simp only [Option.some.injEq, Prod.mk.injEq] at h
            simp [← h.2]
          · simp at h

/-- The tokens of a text without blanks at the end. -/
def readAll (t : Text) : Option (List Token) :=
  if t.isEmpty then some []
  else
    match _found : next? (trimLeft t) with
    | none => none
    | some (token, rest) => (readAll rest).map (token :: ·)
termination_by t.length
decreasing_by
  have h₁ := length_next? _found
  have h₂ := (t.dropWhile_sublist isBlank).length_le
  simp only [trimLeft] at h₁
  omega

def tokenize (t : Text) : Option (List Token) := readAll (trimRight t)

/-- The number that a number token denotes. -/
def value (numeral : Text) : Except Breakdown Int :=
  let sign := numeral.head?
  let digits := if sign == some '-' || sign == some '+' then numeral.tail else numeral
  if digits.length > numeralLimit then .error (.numeralTooLong digits.length)
  else if sign == some '-' then .ok (-(natOfDigits digits : Int))
  else .ok (natOfDigits digits)

end Token

end SketchGrader
