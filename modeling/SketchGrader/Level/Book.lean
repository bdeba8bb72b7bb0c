import SketchGrader.Document.Display
import SketchGrader.Level.Basic

/-!
# The level book

A book holds levels in ascending order of their numbers; levels with one number keep the order in
which they were given, and the last of them is the one that the number denotes.
-/

namespace SketchGrader

/-- Levels in ascending order. -/
structure LevelBook where
  levels : List Level
  deriving Repr

namespace LevelBook

def ofLevels (levels : List Level) : LevelBook :=
  ⟨levels.mergeSort fun a b => decide (a.id ≤ b.id)⟩

def size (b : LevelBook) : Nat := b.levels.length

def get? (b : LevelBook) (id : Int) : Option Level :=
  b.levels.reverse.find? fun level => level.id == id

def byDifficulty (b : LevelBook) (name : String) : List Level :=
  b.levels.filter fun level => level.difficulty.name == name

/-- The number that follows the first occurrence of `id`. -/
def follower? (id : Int) : List Int → Option Int
  | [] => none
  | [_] => none
  | a :: b :: rest => if a = id then some b else follower? id (b :: rest)

/-- The number that precedes the first occurrence of `id`. -/
def predecessor? (id : Int) : List Int → Option Int
  | [] => none
  | [_] => none
  | a :: b :: rest =>
    if a = id then none else if b = id then some a else predecessor? id (b :: rest)

def next? (b : LevelBook) (id : Int) : Option Int := follower? id (b.levels.map (·.id))

def previous? (b : LevelBook) (id : Int) : Option Int := predecessor? id (b.levels.map (·.id))

end LevelBook

inductive BookError where
  | invalid (objections : List Objection)
  /-- Data of this kind has no items. -/
  | noItems (kind : String)
  deriving DecidableEq, Repr

namespace LevelBook

/-- The levels of a list of data; the first that is invalid ends the reading. -/
def levelsOf : List Datum → Except BookError (List Level)
  | [] => .ok []
  | d :: rest =>
    match Level.ofDatum d with
    | .invalid objections => .error (.invalid objections)
    | .valid level => (levelsOf rest).map (level :: ·)

/-- The items of a datum; what is empty has none. -/
def itemsOf : Datum → Except BookError (List Datum)
  | .list items => .ok items
  | .record fields => .ok (fields.map fun field => .text field.1)
  | .text s => .ok (s.toList.map fun c => .text (String.singleton c))
  | d => if d.isTruthy then .error (.noItems d.kindName) else .ok []

/-- The book in a document: a list of levels, alone or as the field `levels`. -/
def ofDocument (d : Datum) : Except BookError LevelBook := do
  let stored := match d with
    | .record fields => (Datum.field? fields "levels").getD (.list [])
    | other => other
  return ofLevels (← levelsOf (← itemsOf stored))

end LevelBook

end SketchGrader
