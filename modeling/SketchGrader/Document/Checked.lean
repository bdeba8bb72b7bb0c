import SketchGrader.Document.Datum
import SketchGrader.Document.Numeral

/-!
# Checked documents

Settings and levels are read leniently: numbers may be written as text, truth values in several
ways, unknown fields are ignored. All objections to a document are collected, in the order of the
fields that are asked for.
-/

namespace SketchGrader

inductive Reason where
  | missing
  | notRecord
  | notInt
  | badIntText
  | longInt
  | fraction
  | notFinite
  | notFloat
  | badFloatText
  | notBool
  | badBool
  | notText
  | notChoice
  | notList
  | notTable
  | tooSmall
  deriving DecidableEq, Repr

def Reason.code : Reason → String
  | missing => "missing"
  | notRecord => "model_type"
  | notInt => "int_type"
  | badIntText => "int_parsing"
  | longInt => "int_parsing_size"
  | fraction => "int_from_float"
  | notFinite => "finite_number"
  | notFloat => "float_type"
  | badFloatText => "float_parsing"
  | notBool => "bool_type"
  | badBool => "bool_parsing"
  | notText => "string_type"
  | notChoice => "literal_error"
  | notList => "list_type"
  | notTable => "dict_type"
  | tooSmall => "greater_than_equal"

inductive PathStep where
  | name (name : String)
  | index (index : Nat)
  deriving DecidableEq, Repr

/-- An objection to the piece at the end of a path. -/
structure Objection where
  path : List PathStep
  reason : Reason
  deriving DecidableEq, Repr

/-- What a document denotes, or all objections to it. -/
inductive Checked (α : Type) where
  | valid (value : α)
  | invalid (objections : List Objection)

namespace Checked

def object {α : Type} (reason : Reason) : Checked α := invalid [⟨[], reason⟩]

def map {α β : Type} (f : α → β) : Checked α → Checked β
  | valid a => valid (f a)
  | invalid objections => invalid objections

/-- Puts two readings together, with the objections to both. -/
def both {α β : Type} (f : Checked (α → β)) (x : Checked α) : Checked β :=
  match f, x with
  | valid f, valid a => valid (f a)
  | valid _, invalid objections => invalid objections
  | invalid objections, valid _ => invalid objections
  | invalid first, invalid second => invalid (first ++ second)

instance : Functor Checked where
  map := map

instance : Applicative Checked where
  pure := valid
  seq f x := both f (x ())

/-- The reading of a piece as part of the whole. -/
def under {α : Type} (step : PathStep) : Checked α → Checked α
  | valid a => valid a
  | invalid objections => invalid (objections.map fun o => { o with path := step :: o.path })

/-- A further condition on what is denoted. -/
def ensure {α : Type} (condition : α → Bool) (otherwise : Reason) : Checked α → Checked α
  | valid a => if condition a then valid a else object otherwise
  | invalid objections => invalid objections

end Checked

namespace Datum

def intOfText (s : String) : Checked Int :=
  if Numeral.startsTooLong s.toList then .object .longInt
  else match Numeral.int? s.toList with
    | some n => .valid n
    | none => .object .badIntText

/-- The bound of signed machine words, `2 ^ 63`. -/
def wordBound : Nat := 1 <<< 63

/-- The whole number that a machine number is. It has to lie between `-2 ^ 63` and `2 ^ 63`, the
ends left out. -/
def intOfFloat (x : Float) : Checked Int :=
  match exactValue? x with
  | none => .object .notFinite
  | some q =>
    if q.den != 1 then .object .fraction
    else if q.num.natAbs < wordBound then .valid q.num
    else .object .longInt

def checkInt : Datum → Checked Int
  | .int n => .valid n
  | .bool b => .valid (if b then 1 else 0)
  | .real x => intOfFloat x
  | .text s => intOfText s
  | _ => .object .notInt

def checkFloat : Datum → Checked Float
  | .real x => .valid x
  | .int n =>
    match Numeral.floatOfInt? n with
    | some x => .valid x
    | none => .object .notFloat
  | .bool b => .valid (if b then 1.0 else 0.0)
  | .text s =>
    match Numeral.float? s.toList with
    | some x => .valid x
    | none => .object .badFloatText
  | _ => .object .notFloat

/-- The texts that mean no, and those that mean yes, in lower case. -/
def noTexts : List String := ["0", "off", "f", "false", "n", "no"]
def yesTexts : List String := ["1", "on", "t", "true", "y", "yes"]

/-- The truth value that a whole number stands for. -/
def boolOfInt (n : Int) : Checked Bool :=
  if n = 0 then .valid false else if n = 1 then .valid true else .object .badBool

/-- A truth value. A number stands for one only if it is whole and has 64 bits at most. -/
def checkBool : Datum → Checked Bool
  | .bool b => .valid b
  | .int n => if -wordBound ≤ n ∧ n < wordBound then boolOfInt n else .object .notBool
  | .real x =>
    match intOfFloat x with
    | .valid n => boolOfInt n
    | .invalid _ => .object .notBool
  | .text s =>
    let word := String.ofList (s.toList.map Numeral.asciiLower)
    if noTexts.contains word then .valid false
    else if yesTexts.contains word then .valid true
    else .object .badBool
  | _ => .object .notBool

def checkText : Datum → Checked String
  | .text s => .valid s
  | _ => .object .notText

def checkOptionalText : Datum → Checked (Option String)
  | .null => .valid none
  | d => (checkText d).map some

def checkChoice {α : Type} (choices : List (String × α)) : Datum → Checked α
  | .text s =>
    match choices.find? fun choice => choice.1 == s with
    | some choice => .valid choice.2
    | none => .object .notChoice
  | _ => .object .notChoice

/-- The items of a list, each checked, from the given index on. -/
def checkItems {α : Type} (check : Datum → Checked α) (index : Nat) : List Datum → Checked (List α)
  | [] => .valid []
  | item :: rest =>
    List.cons <$> (check item).under (.index index) <*> checkItems check (index + 1) rest

def checkList {α : Type} (check : Datum → Checked α) : Datum → Checked (List α)
  | .list items => checkItems check 0 items
  | _ => .object .notList

/-- The entries of a table of texts. -/
def checkEntries : List (String × Datum) → Checked (List (String × String))
  | [] => .valid []
  | (name, value) :: rest =>
    (fun text entries => (name, text) :: entries) <$> (checkText value).under (.name name) <*>
      checkEntries rest

def checkTable : Datum → Checked (List (String × String))
  | .record fields => checkEntries fields
  | _ => .object .notTable

def optional {α : Type} (fields : List (String × Datum)) (name : String) (default : α)
    (check : Datum → Checked α) : Checked α :=
  match field? fields name with
  | some d => (check d).under (.name name)
  | none => .valid default

def required {α : Type} (fields : List (String × Datum)) (name : String)
    (check : Datum → Checked α) : Checked α :=
  match field? fields name with
  | some d => (check d).under (.name name)
  | none => (Checked.object .missing : Checked α).under (.name name)

end Datum

end SketchGrader
