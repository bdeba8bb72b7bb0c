/-!
# Documents

Settings, levels and stored timelines are documents: trees of plain data. A record keeps its
fields in the order in which they are written.
-/

namespace SketchGrader

inductive Datum where
  | null
  | bool (value : Bool)
  | int (value : Int)
  | real (value : Float)
  | text (value : String)
  | list (items : List Datum)
  | record (fields : List (String × Datum))
  deriving Inhabited

namespace Datum

/-- The value of the last field with the given name. -/
def field? (fields : List (String × Datum)) (name : String) : Option Datum :=
  (fields.reverse.find? fun entry => entry.1 == name).map (·.2)

/-- Whether a datum counts as yes: everything does but nothing at all, `false`, zero and what is
empty. -/
def isTruthy : Datum → Bool
  | null => false
  | bool value => value
  | int value => value != 0
  | real value => value != 0
  | text value => value != ""
  | list items => !items.isEmpty
  | record fields => !fields.isEmpty

end Datum

end SketchGrader
