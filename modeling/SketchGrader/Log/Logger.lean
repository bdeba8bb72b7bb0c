import SketchGrader.Disk.Script
import SketchGrader.Log.Notice
import SketchGrader.Settings.Basic
import SketchGrader.Text.Casing

/-!
# The logger

A logger is configured once. It decides for each notice whether it is shown, and where: on the
console, and in a log file if one could be opened. A logger that was never configured still shows
warnings and errors on the console, without their origin.
-/

namespace SketchGrader.Log

/-- A level as somebody asks for it. -/
inductive Threshold where
  | named (name : String)
  | number (level : Int)
  deriving DecidableEq, Repr

/-- How logging is asked for. -/
structure Request where
  enabled : Bool := true
  level : Threshold := .named "INFO"
  file : Option String := none
  /-- The levels of single components, by name. -/
  modules : List (String × String) := []
  deriving DecidableEq, Repr

def offWords : List String := ["0", "false", "no"]

/-- A text, unless it is missing or empty. -/
def nonEmpty? (s : Option String) : Option String := s.filter fun s => s != ""

/-- What is asked for by the environment or else by the settings, if there are any. Levels of single
components are merged, those of the environment over those of the settings. -/
def Request.resolve (environment : String → Option String) (settings : Option LogSettings) :
    Request where
  enabled := match environment "PINLAB_LOGGING" with
    | some word => !offWords.contains (String.ofList (Text.lower word.toList))
    | none => (settings.map (·.enabled)).getD true
  level := .named ((nonEmpty? (environment "PINLAB_LOG_LEVEL")).getD
    ((settings.map (·.level)).getD "INFO"))
  file := match nonEmpty? (environment "PINLAB_LOG_FILE") with
    | some path => some path
    | none => settings.bind (·.file)
  modules :=
    let own := ((settings.map (·.modules)).getD []).map fun entry => (entry.1, capitals entry.2)
    (moduleLevels ((environment "PINLAB_LOG_MODULES").getD "").toList).foldl
      (fun entries entry => moduleLevels.put entries entry.1 entry.2) own

inductive Sink where
  | console
  | file (path : String)
  deriving DecidableEq, Repr

/-- A level that has no such name. -/
structure UnknownLevel where
  name : String
  deriving DecidableEq, Repr

def UnknownLevel.message (e : UnknownLevel) : String :=
  "Unknown level: " ++ String.ofList (Text.quoted e.name.toList)

def Threshold.resolve : Threshold → Except UnknownLevel Int
  | number level => .ok level
  | named name =>
    match levelOfName? (capitals name) with
    | some level => .ok level
    | none => .error ⟨"Level " ++ capitals name⟩

end Log

/-- How logging is set up. -/
structure Logger where
  level : Int := 30
  sinks : List Log.Sink := []
  isSilenced : Bool := false
  isConfigured : Bool := false
  /-- The levels of single components. -/
  levels : List (String × Int) := []
  deriving DecidableEq, Repr

namespace Logger

open Log

/-- The file that has to be opened before the logger can be configured. -/
def wantedFile? (l : Logger) (r : Request) : Option String :=
  if l.isConfigured || !r.enabled then none else nonEmpty? r.file

/-- Sets the levels of single components in order; an unknown one ends this. -/
def setLevels (l : Logger) : List (String × String) → Except UnknownLevel Unit × Logger
  | [] => (.ok (), l)
  | (name, level) :: rest =>
    match levelOfName? (capitals level) with
    | some n => setLevels { l with levels := (name, n) :: l.levels } rest
    | none => (.error ⟨capitals level⟩, l)

/-- Configures a logger, unless it is configured already. `opened` is the log file if it could be
opened. A level that is unknown leaves the new sinks and the levels set before it. -/
def configure (l : Logger) (r : Request) (opened : Option String) :
    Except UnknownLevel Unit × Logger :=
  if l.isConfigured then (.ok (), l)
  else if !r.enabled then (.ok (), { l with isSilenced := true, isConfigured := true })
  else
    let l := { l with isSilenced := false, sinks := .console :: opened.toList.map .file }
    match r.level.resolve with
    | .error e => (.error e, l)
    | .ok level =>
      match setLevels { l with level } r.modules with
      | (.ok (), l) => (.ok (), { l with isConfigured := true })
      | (.error e, l) => (.error e, l)

def levelOf? (l : Logger) (component : String) : Option Int :=
  ((l.levels.find? fun entry => entry.1 == component).map (·.2)).filter (· != 0)

/-- The level from which on notices of an origin are shown. -/
def threshold (l : Logger) (origin : Origin) : Int :=
  ((l.levelOf? (origin.component ++ "." ++ origin.speaker)).orElse
    fun _ => l.levelOf? origin.component).getD l.level

def shows (l : Logger) (n : Notice) : Bool :=
  !l.isSilenced && decide (l.threshold n.origin ≤ n.severity.rank)

/-- The lines that a notice gives, each with the place it goes to. -/
def route (l : Logger) (n : Notice) : List (Sink × String) :=
  if !l.shows n then []
  else if l.sinks.isEmpty then
    if Severity.warning.rank ≤ n.severity.rank then [(.console, n.message)] else []
  else l.sinks.map fun sink => (sink, n.render)

/-- Configures a logger with the log file that is asked for; one that cannot be opened is left
out. -/
def setUp (l : Logger) (r : Request) : Script (Except UnknownLevel Unit × Logger) :=
  match l.wantedFile? r with
  | none => .done (l.configure r none)
  | some path => .openLog path fun opened =>
    .done (l.configure r (if opened then some path else none))

def report (l : Logger) (n : Notice) : Script Unit :=
  (l.route n).forM fun (sink, line) =>
    match sink with
    | .console => .emit (.diagnostic line) (.done ())
    | .file path => .emit (.log path line) (.done ())

end Logger

end SketchGrader
