import SketchGrader.Text.Basic
import SketchGrader.Text.Casing
import SketchGrader.Text.Word

/-!
# Recognising patterns

A recogniser takes the text from one place on and gives what it read together with the rest.
Searches try a recogniser at the beginnings of words only, from left to right, and never let two
finds overlap.
-/

namespace SketchGrader.Text

def after : Text → Text → Option Text
  | [], t => some t
  | w :: word, c :: rest => if c == w then after word rest else none
  | _ :: _, [] => none

/-- The rest after a word in any case. The word is given in lower case. -/
def afterAnyCase : Text → Text → Option Text
  | [], t => some t
  | w :: word, c :: rest => if foldCase c == w then afterAnyCase word rest else none
  | _ :: _, [] => none

/-- The rest after at least one blank and all that follow it. -/
def afterBlanks : Text → Option Text
  | c :: rest => if isBlank c then some (trimLeft rest) else none
  | [] => none

/-- The rest after any blanks and then a fixed text. -/
def afterBlanksAnd (word t : Text) : Option Text := after word (trimLeft t)

/-- The longest non-empty run of accepted characters, and the rest. -/
def run (accept : Char → Bool) (t : Text) : Option (Text × Text) :=
  match t.takeWhile accept with
  | [] => none
  | found => some (found, t.dropWhile accept)

/-- What stands in front of `rest` at the end of `t`. -/
def upTo (t rest : Text) : Text := t.take (t.length - rest.length)

/-- The first find of a recogniser at the start of a word; `before` is the character in front. -/
def findWord {α : Type} (recognise : Text → Option (α × Text)) (before : Option Char) :
    Text → Option (α × Text)
  | [] => none
  | c :: rest =>
    if before.any isWord then findWord recognise (some c) rest
    else match recognise (c :: rest) with
      | some found => some found
      | none => findWord recognise (some c) rest

/-- All finds of a recogniser at beginnings of words, each search going on behind the last find. -/
def findWords {α : Type} (recognise : Text → Option (α × Text)) (before : Option Char)
    (t : Text) : List α :=
  match t with
  | [] => []
  | c :: rest =>
    if before.any isWord then findWords recognise (some c) rest
    else match recognise (c :: rest) with
      | none => findWords recognise (some c) rest
      | some (found, behind) =>
        if behind.length ≤ rest.length then
          found :: findWords recognise (upTo (c :: rest) behind).getLast? behind
        else found :: findWords recognise (some c) rest
termination_by t.length

end SketchGrader.Text
