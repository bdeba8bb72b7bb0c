import SketchGrader.Document.Checked

/-!
# Levels

A level is an exercise: a target sketch, whose timeline a submission has to reproduce, and what is
shown about it.
-/

namespace SketchGrader

inductive Difficulty where
  | beginner
  | intermediate
  | advanced
  deriving DecidableEq, Repr

def Difficulty.name : Difficulty → String
  | beginner => "beginner"
  | intermediate => "intermediate"
  | advanced => "advanced"

def Difficulty.choices : List (String × Difficulty) :=
  [beginner, intermediate, advanced].map fun d => (d.name, d)

structure Level where
  id : Int
  name : String
  description : String := ""
  targetCode : String
  hint : String := ""
  difficulty : Difficulty := .beginner
  requiredPins : List Int := []
  /-- How often the loop body is run for the comparison, at least once. -/
  validationLoops : Int := 1
  timeLimitMs : Int := 60000
  requiresPwm : Bool := false
  deriving DecidableEq, Repr

namespace Level

open Datum

def ofDatum : Datum → Checked Level
  | .record fields =>
    Level.mk
      <$> required fields "id" checkInt
      <*> required fields "name" checkText
      <*> optional fields "description" "" checkText
      <*> required fields "target_code" checkText
      <*> optional fields "hint" "" checkText
      <*> optional fields "difficulty" .beginner (checkChoice Difficulty.choices)
      <*> optional fields "required_pins" [] (checkList checkInt)
      <*> optional fields "validation_loops" 1 (fun d => (checkInt d).ensure (1 ≤ ·) .tooSmall)
      <*> optional fields "time_limit_ms" 60000 checkInt
      <*> optional fields "requires_pwm" false checkBool
  | _ => .object .notRecord

def toDatum (l : Level) : Datum :=
  .record [("id", .int l.id), ("name", .text l.name), ("description", .text l.description),
    ("target_code", .text l.targetCode), ("hint", .text l.hint),
    ("difficulty", .text l.difficulty.name), ("required_pins", .list (l.requiredPins.map .int)),
    ("validation_loops", .int l.validationLoops), ("time_limit_ms", .int l.timeLimitMs),
    ("requires_pwm", .bool l.requiresPwm)]

end Level

end SketchGrader
