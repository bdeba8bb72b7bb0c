import SketchGrader.Disk.Script
import SketchGrader.Document.Reader
import SketchGrader.Level.Book
import SketchGrader.Settings.Decode
import SketchGrader.Timeline.Stored

/-!
# Loading and saving

Settings, level books and timelines in data files. Settings and level books that are not there have
their usual values; a timeline has to be there.
-/

namespace SketchGrader

inductive LoadError where
  | file (path : String) (error : FileError)
  | settings (objections : List Objection)
  | book (error : BookError)
  | sequence (error : StoredError)
  deriving DecidableEq, Repr

/-- A script that may fail to load something. -/
abbrev Loading := ExceptT LoadError Script

namespace Loading

/-- A text with every line end made a line feed. -/
def unifyLineEnds : Text → Text
  | [] => []
  | '\r' :: '\n' :: rest => '\n' :: unifyLineEnds rest
  | c :: rest => (if c = '\r' then '\n' else c) :: unifyLineEnds rest

/-- The text in a file, with line feeds only. -/
def text? (path : String) : Loading (Except FileError Text) :=
  ExceptT.mk (.read path fun found => .done (.ok (found.map unifyLineEnds)))

def text (path : String) : Loading Text := do
  match ← text? path with
  | .ok t => return t
  | .error e => throw (.file path e)

/-- The document in a file if there is such a file. -/
def document? (path : String) : Loading (Option Datum) := do
  match ← text? path with
  | .ok t => return some (Datum.ofFile t)
  | .error .isFolder => throw (.file path .isFolder)
  | .error _ => return none

end Loading

/-- The settings in a document; an empty document holds the usual ones. -/
def Settings.ofDocument (d : Datum) : Checked Settings :=
  Settings.ofDatum (if d.isTruthy then d else .record [])

/-- Where settings are looked for unless they are found elsewhere. -/
def Settings.usualPaths : List String := ["config/config.yaml", "config.yaml"]

/-- The settings in the first of some files that is there. -/
def Settings.loadFirst : List String → Loading Settings
  | [] => return {}
  | path :: rest => do
    match ← Loading.document? path with
    | none => loadFirst rest
    | some d =>
      match Settings.ofDocument d with
      | .valid settings => return settings
      | .invalid objections => throw (.settings objections)

/-- The settings in a file, or else at the usual places. -/
def Settings.load (path : Option String) : Loading Settings :=
  Settings.loadFirst (path.toList ++ Settings.usualPaths)

/-- The level book in a file; a file that is not there holds no levels. -/
def LevelBook.load (path : String) : Loading LevelBook := do
  match ← Loading.document? path with
  | none => return ⟨[]⟩
  | some d =>
    match LevelBook.ofDocument d with
    | .ok book => return book
    | .error e => throw (.book e)

def Sequence.load (path : String) : Loading Sequence := do
  match Sequence.ofDocument (Datum.ofFile (← Loading.text path)) with
  | .ok s => return s
  | .error e => throw (.sequence e)

def Sequence.save (path : String) (s : Sequence) : Loading Unit :=
  ExceptT.mk (.write path s.fileText fun result => .done (result.mapError (.file path)))

end SketchGrader
