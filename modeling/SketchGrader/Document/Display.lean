import SketchGrader.Document.Datum
import SketchGrader.Number.Shortest
import SketchGrader.Text.Quoted

/-!
# Data in messages

How a datum is shown when a message has to name it, and what its kind is called.
-/

namespace SketchGrader.Datum

mutual

/-- A datum as messages show it. -/
def display : Datum → String
  | null => "None"
  | bool value => if value then "True" else "False"
  | int value => toString value
  | real value => Shortest.render value
  | text value => Text.quote value
  | list items => "[" ++ ", ".intercalate (displayItems items) ++ "]"
  | record fields => "\x7b" ++ ", ".intercalate (displayFields fields) ++ "\x7d"

def displayItems : List Datum → List String
  | [] => []
  | item :: rest => display item :: displayItems rest

def displayFields : List (String × Datum) → List String
  | [] => []
  | (name, value) :: rest => (Text.quote name ++ ": " ++ display value) :: displayFields rest

end

def kindName : Datum → String
  | null => "NoneType"
  | bool _ => "bool"
  | int _ => "int"
  | real _ => "float"
  | text _ => "str"
  | list _ => "list"
  | record _ => "dict"

end SketchGrader.Datum
