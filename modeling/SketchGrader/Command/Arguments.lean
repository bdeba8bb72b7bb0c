import SketchGrader.Document.Whole
import SketchGrader.Text.Quoted

/-!
# Command line arguments

The command takes one operand, the sketch, and some options. An option may be cut short as long as
it stays unique, and its value may follow after an equals sign. Two hyphens end the options. A
negative number is an operand.
-/

namespace SketchGrader.Command

inductive Flag where
  | help
  | level
  | config
  | static
  | tolerance
  | listLevels
  deriving DecidableEq, Repr

namespace Flag

/-- How the options are written, in the order in which they are listed. -/
def spellings : List (String × Flag) :=
  [("-h", help), ("--help", help), ("--level", level), ("--config", config), ("--static", static),
    ("--tolerance", tolerance), ("--list-levels", listLevels)]

/-- How an option is named in messages: all its spellings. -/
def label (f : Flag) : String :=
  "/".intercalate ((spellings.filter fun entry => entry.2 == f).map (·.1))

def takesValue : Flag → Bool
  | level | config | tolerance => true
  | help | static | listLevels => false

end Flag

inductive UsageError where
  | ambiguous (word : String) (candidates : List String)
  | valueMissing (flag : Flag)
  | valueIgnored (flag : Flag) (value : String)
  | badInteger (flag : Flag) (value : String)
  | unrecognized (words : List String)
  | sketchMissing
  deriving DecidableEq, Repr

def UsageError.message : UsageError → String
  | ambiguous word candidates =>
    "ambiguous option: " ++ word ++ " could match " ++ ", ".intercalate candidates
  | valueMissing flag => "argument " ++ flag.label ++ ": expected one argument"
  | valueIgnored flag value =>
    "argument " ++ flag.label ++ ": ignored explicit argument " ++ Text.quote value
  | badInteger flag value =>
    "argument " ++ flag.label ++ ": invalid int value: " ++ Text.quote value
  | unrecognized words => "unrecognized arguments: " ++ " ".intercalate words
  | sketchMissing => "a sketch path is required"

/-- What an argument is, by its looks. -/
inductive Role where
  | operand
  /-- The two hyphens behind which there are only operands. -/
  | separator
  /-- An option, with the value that is written into the same argument. -/
  | flag (flag : Flag) (attached : Option String)
  | unknown
  deriving DecidableEq, Repr

namespace Role

/-- Whether a text is a negative number, whole or with a decimal point. A line feed may follow. -/
def isNegativeNumber (t : Text) : Bool :=
  let t := if t.getLast? == some '\n' then t.dropLast else t
  match t with
  | '-' :: digits =>
    let behind := digits.dropWhile Text.isDigit
    match behind with
    | [] => !digits.isEmpty
    | '.' :: fraction => !fraction.isEmpty && fraction.all Text.isDigit
    | _ => false
  | _ => false

/-- The part in front of the first equals sign, and the part behind it if there is one. -/
def splitValue (t : Text) : Text × Option String :=
  match t.dropWhile (· != '=') with
  | [] => (t, none)
  | _ :: value => (t.takeWhile (· != '='), some (String.ofList value))

/-- The option that is written exactly so. -/
def spelled? (t : Text) : Option Flag :=
  (Flag.spellings.find? fun entry => entry.1.toList == t).map (·.2)

/-- The options that an argument with a hyphen in front may be short for, each with its spelling
and its attached value. Behind a single hyphen, letters after the first are attached. -/
def candidates (t : Text) : List (String × Flag × Option String) :=
  match t with
  | '-' :: '-' :: _ =>
    let (name, value) := splitValue t
    (Flag.spellings.filter fun entry => name.isPrefixOf entry.1.toList).map fun entry =>
      (entry.1, entry.2, value)
  | _ =>
    Flag.spellings.filterMap fun entry =>
      if entry.1.toList == t.take 2 then some (entry.1, entry.2, some (String.ofList (t.drop 2)))
      else if t.isPrefixOf entry.1.toList then some (entry.1, entry.2, none)
      else none

/-- The role of an argument before any separator. -/
def ofWord (word : String) : Except UsageError Role :=
  let t := word.toList
  if t.head? != some '-' || t.length ≤ 1 then .ok .operand
  else
    match spelled? t with
    | some f => .ok (.flag f none)
    | none =>
      match spelled? (splitValue t).1, (splitValue t).2 with
      | some f, some value => .ok (.flag f (some value))
      | _, _ =>
        match candidates t with
        | [(_, f, attached)] => .ok (.flag f attached)
        | [] =>
          if isNegativeNumber t || t.contains ' ' then .ok .operand else .ok .unknown
        | several => .error (.ambiguous word (several.map (·.1)))

def ofWords : List String → Except UsageError (List (String × Role))
  | [] => .ok []
  | word :: rest =>
    if word == "--" then .ok ((word, .separator) :: rest.map (·, .operand))
    else do
      let role ← ofWord word
      return (word, role) :: (← ofWords rest)

end Role

structure Choices where
  sketch : Option String := none
  level : Int := 1
  config : Option String := none
  isStatic : Bool := false
  tolerance : Option Int := none
  listLevels : Bool := false
  deriving DecidableEq, Repr

/-- How the reading of arguments ends. -/
inductive Parsed where
  | help
  | choices (choices : Choices)
  | refused (error : UsageError)
  deriving DecidableEq, Repr

namespace Choices

def integer (f : Flag) (value : String) : Except UsageError Int :=
  match Whole.ofText value with
  | .ok n => .ok n
  | .error _ => .error (.badInteger f value)

def setValue (c : Choices) (f : Flag) (value : String) : Except UsageError Choices :=
  match f with
  | .level => (integer f value).map fun n => { c with level := n }
  | .tolerance => (integer f value).map fun n => { c with tolerance := some n }
  | .config => .ok { c with config := some value }
  | _ => .ok c

def setFlag (c : Choices) : Flag → Choices
  | .static => { c with isStatic := true }
  | .listLevels => { c with listLevels := true }
  | _ => c

/-- The value that is refused among what is written behind `-h`: more letters may follow it, but
neither a value nor a hyphen. -/
def refusedBehindHelp? : Text → Option Text
  | '=' :: value => some value
  | '-' :: rest => some ('-' :: rest)
  | 'h' :: rest => refusedBehindHelp? rest
  | _ => none

/-- Takes the arguments in order. `seated` tells whether the operand has had its turn, and
`extra` holds the arguments that nothing takes, the last of them first. -/
def take (c : Choices) (seated : Bool) (extra : List String) :
    List (String × Role) → Parsed
  | [] => if extra.isEmpty then .choices c else .refused (.unrecognized extra.reverse)
  | (word, role) :: rest =>
    match role with
    | .unknown => take c seated (word :: extra) rest
    | .flag .help attached =>
      let refused := match word.toList with
        | '-' :: 'h' :: more => (refusedBehindHelp? more).map String.ofList
        | _ => attached
      match refused with
      | some value => .refused (.valueIgnored .help value)
      | none => .help
    | .flag f attached =>
      if f.takesValue then
        match attached with
        | some value =>
          match c.setValue f value with
          | .ok c => take c seated extra rest
          | .error e => .refused e
        | none =>
          match rest with
          | (value, .operand) :: rest =>
            match c.setValue f value with
            | .ok c => take c seated extra rest
            | .error e => .refused e
          | _ => .refused (.valueMissing f)
      else
        match attached with
        | some value => .refused (.valueIgnored f value)
        | none => take (c.setFlag f) seated extra rest
    | .operand =>
      if seated then take c seated (word :: extra) rest
      else
        match rest with
        | (_, .separator) :: rest => take { c with sketch := some word } true extra rest
        | rest => take { c with sketch := some word } true extra rest
    | .separator =>
      if seated then take c seated (word :: extra) rest
      else
        match rest with
        | (next, .operand) :: rest => take { c with sketch := some next } true extra rest
        | rest => take c true extra rest

def ofWords (words : List String) : Parsed :=
  match Role.ofWords words with
  | .ok arguments => take {} false [] arguments
  | .error e => .refused e

end Choices

end SketchGrader.Command
