import SketchGrader.Command.Arguments
import SketchGrader.Disk.Load
import SketchGrader.Grading.Feedback
import SketchGrader.Grading.Grader
import SketchGrader.Log.Logger

/-!
# The command

The command lists the levels or grades one sketch. The result goes to the standard output, log lines
and complaints go to the other one, and the exit code tells whether the sketch passed.
-/

namespace SketchGrader.Command

inductive AppError where
  | load (error : LoadError)
  | logLevel (error : Log.UnknownLevel)
  | halt (halt : Halt)
  deriving DecidableEq, Repr

/-- A script that may give up. -/
abbrev App := ExceptT AppError Script

namespace App

/-- Gives something out. -/
def emit (output : Output) : App Unit := ExceptT.mk (.emit output (.done (.ok ())))

def say (line : String) : App Unit := emit (.standard line)

def complain (line : String) : App Unit := emit (.diagnostic line)

/-- Loads something or gives up. -/
def loading {α : Type} (x : Loading α) : App α :=
  ExceptT.mk (x.run.andThen fun result => .done (result.mapError .load))

end App

open App

def usage : List String :=
  ["usage: app.py [-h] [--level LEVEL] [--config CONFIG] [--static]",
    "              [--tolerance TOLERANCE] [--list-levels]",
    "              [sketch]"]

def help : List String :=
  usage ++ ["", "Check a sketch against a level's target pin timeline.", "",
    "positional arguments:",
    "  sketch                path to the learner's sketch (.ino)", "",
    "options:",
    "  -h, --help            show this help message and exit",
    "  --level LEVEL",
    "  --config CONFIG",
    "  --static              extract the sketch timeline instead of running it live",
    "  --tolerance TOLERANCE",
    "                        interval tolerance in ms",
    "  --list-levels"]

def refuse (e : UsageError) : App Nat := do
  usage.forM complain
  complain ("app.py: error: " ++ e.message)
  return 2

def column (width : Nat) (s : String) : String := String.ofList (Text.padRight width s.toList)

def number (n : Int) : String := String.ofList (Text.padLeft 3 (toString n).toList)

def levelLine (l : Level) : String :=
  number l.id ++ "  " ++ column 20 l.name ++ " " ++ column 13 l.difficulty.name ++ " " ++
    l.description

/-- A statement of a live run with the pins as they are after it. -/
def statementLine (line : Int) (s : Statement) (lights : List (Int × Bool)) : String :=
  let lamp (light : Int × Bool) : String :=
    "D" ++ toString light.1 ++ (if light.2 then ":#" else ":.")
  "[RUN] line " ++ number line ++ "  " ++ column 16 s.typeName ++ " " ++
    " ".intercalate (lights.map lamp)

def showMark (logger : Logger) : Mark → App Unit
  | .statement line s lights => say (statementLine line s lights)
  | .pause ms => emit (.pause ms)
  | .notice n => ExceptT.lift (logger.report n)
  | _ => return ()

/-- Shows the trace of something and goes on with its result. -/
def traced {α : Type} (logger : Logger) (x : Traced α) : App α := do
  x.marks.forM (showMark logger)
  match x.outcome with
  | .ok a => return a
  | .error halt => throw (.halt halt)

def configure (r : Log.Request) : App Logger := do
  match ← ExceptT.lift (Logger.setUp {} r) with
  | (.ok (), logger) => return logger
  | (.error e, _) => throw (.logLevel e)

/-- Prints what came of a submission. The exit code is 0 if it passed, 1 if it did not, and 2 if it
could not be run. -/
def present (settings : Settings) (level : Level) (grade : Grade) : App Nat := do
  match grade.fault with
  | some fault =>
    say ("[APP] " ++ fault.kind.name ++ ": " ++ fault.message)
    return 2
  | none =>
    let outcome := if grade.passed then "PASS" else "FAIL"
    let score := grade.verdict.score
    let found := grade.candidate.events.length
    let wanted := grade.target.events.length
    say s!"[APP] {outcome}  score {score}%  ({found} events vs {wanted} expected)"
    grade.verdict.differences.forM fun d => say ("  - " ++ d.message)
    if grade.passed then return 0
    match Feedback.analyze settings.compare grade.target grade.candidate with
    | .error b => throw (.halt (.breakdown b))
    | .ok feedback =>
      feedback.suggestions.forM fun hint => say ("  * " ++ hint)
      if level.hint != "" then say ("  Hint: " ++ level.hint)
      return 1

def gradeSketch (choices : Choices) (logger : Logger) (grader : Grader) (level : Level)
    (source : Text) : App Nat := do
  if !choices.isStatic then say ("[APP] Running '" ++ level.name ++ "' live. Ctrl+C to stop.")
  let mode := if choices.isStatic then .static else .live grader.liveSetup
  let grade ← traced logger (grader.check level source mode choices.tolerance).1
  present grader.settings level grade

/-- Carries out what the arguments ask for. -/
def perform (environment : String → Option String) (choices : Choices) : App Nat := do
  let settings ← loading (Settings.load (Log.nonEmpty? choices.config))
  let logger ← configure (.resolve environment (some settings.log))
  let book ← loading (LevelBook.load settings.levelsPath)
  if choices.listLevels then
    book.levels.forM fun level => say (levelLine level)
    return 0
  match book.get? choices.level with
  | none =>
    complain ("[APP] Unknown level " ++ toString choices.level)
    return 2
  | some level =>
    match Log.nonEmpty? choices.sketch with
    | none => refuse .sketchMissing
    | some path =>
      let source ← loading (Loading.text path)
      gradeSketch choices logger { settings, book } level source

/-- The command with its environment and its arguments; the result is the exit code. -/
def run (environment : String → Option String) (arguments : List String) : App Nat :=
  match Choices.ofWords arguments with
  | .help => do
    help.forM say
    return 0
  | .refused e => refuse e
  | .choices choices => perform environment choices

end SketchGrader.Command
