import SketchGrader.Sketch.Fault
import SketchGrader.Text.Casing
import SketchGrader.Text.Quoted

/-!
# Log levels and records

Levels are numbers, some of which have names. A record is shown with the name of its level, the last
part of the name of its source, its text, and the sketch line that it is about.
-/

namespace SketchGrader.Log

/-- The names of levels; the first name of a level is the one that is shown. -/
def levelNames : List (String × Int) :=
  [("CRITICAL", 50), ("FATAL", 50), ("ERROR", 40), ("WARNING", 30), ("WARN", 30), ("INFO", 20),
    ("DEBUG", 10), ("NOTSET", 0)]

def levelOfName? (name : String) : Option Int :=
  (levelNames.find? fun entry => entry.1 == name).map (·.2)

def levelName (level : Int) : String :=
  match levelNames.find? fun entry => entry.2 == level with
  | some (name, _) => name
  | none => s!"Level {level}"

def capitals (s : String) : String := String.ofList (Text.upper s.toList)

/-- The reference to a sketch line at the end of a log line; 0 is no line. -/
def lineReference (line : Int) : String := if line = 0 then "" else s!" @L{line}"

structure Record where
  source : String
  level : Int := 30
  message : String
  line : Int := 0
  deriving DecidableEq, Repr

namespace Record

/-- The last part of the dotted name of the source. -/
def shortSource (r : Record) : String :=
  String.ofList ((Text.split '.' r.source.toList).getLastD [])

def render (r : Record) : String :=
  levelName r.level ++ " [" ++ r.shortSource ++ "] " ++ r.message ++ lineReference r.line

end Record

/-- The levels written for single components as `name=level` with commas between them; what has
another form is passed over, and of two entries for one name the last counts. -/
def moduleLevels (written : Text) : List (String × String) :=
  (Text.split ',' written).foldl add []
where
  /-- The entry in one piece of the text. -/
  entry? (piece : Text) : Option (String × String) :=
    let name := Text.trim (piece.takeWhile (· != '='))
    match piece.dropWhile (· != '=') with
    | [] => none
    | _ :: level =>
      let level := Text.trim level
      if name.isEmpty || level.isEmpty then none
      else some (String.ofList name, String.ofList (Text.upper level))
  /-- Adds what a piece says to the entries before it. -/
  add (entries : List (String × String)) (piece : Text) : List (String × String) :=
    match entry? piece with
    | some (name, level) => put entries name level
    | none => entries
  /-- Gives a name its level, at the place that the name has already. -/
  put (entries : List (String × String)) (name level : String) : List (String × String) :=
    if entries.any fun entry => entry.1 == name then
      entries.map fun entry => if entry.1 == name then (name, level) else entry
    else entries ++ [(name, level)]

end SketchGrader.Log
