import SketchGrader.Text.Basic
import SketchGrader.Text.Quoted

/-!
# Scripts

A script is a program that reads files, writes files and gives out lines, as data. The same script
can be run against the real disk or against a folder that is a value.
-/

namespace SketchGrader

inductive FileError where
  | missing
  | isFolder
  /-- A file stands where the path needs a folder. -/
  | underFile
  deriving DecidableEq, Repr

def FileError.message (path : String) (e : FileError) : String :=
  let shown := String.ofList (Text.quoted path.toList)
  match e with
  | missing => s!"[Errno 2] No such file or directory: {shown}"
  | isFolder => s!"[Errno 21] Is a directory: {shown}"
  | underFile => s!"[Errno 20] Not a directory: {shown}"

/-- What a script gives out. -/
inductive Output where
  /-- A line of the result. -/
  | standard (line : String)
  /-- A line about how the result came about, or about what is wrong. -/
  | diagnostic (line : String)
  /-- A line of a log file that has been opened. -/
  | log (path line : String)
  | pause (ms : Int)
  deriving DecidableEq, Repr

/-- A program with its dealings with the outside. -/
inductive Script (α : Type) where
  | done (a : α)
  | read (path : String) (next : Except FileError Text → Script α)
  /-- Writes a file and the folders above it. -/
  | write (path content : String) (next : Except FileError Unit → Script α)
  /-- Makes a log file ready to be written at its end; tells whether that went well. -/
  | openLog (path : String) (next : Bool → Script α)
  | emit (output : Output) (next : Script α)

namespace Script

/-- Goes on with the result of a script. -/
def andThen {α β : Type} (s : Script α) (f : α → Script β) : Script β :=
  match s with
  | done a => f a
  | read path next => read path fun found => andThen (next found) f
  | write path content next => write path content fun result => andThen (next result) f
  | openLog path next => openLog path fun opened => andThen (next opened) f
  | emit output next => emit output (andThen next f)

instance : Monad Script where
  pure := done
  bind := andThen

/-- How the dealings of a script are carried out. -/
structure Handler (m : Type → Type) where
  read : String → m (Except FileError Text)
  write : String → String → m (Except FileError Unit)
  openLog : String → m Bool
  emit : Output → m Unit

def execute {α : Type} {m : Type → Type} [Monad m] (h : Handler m) : Script α → m α
  | done a => pure a
  | read path next => do execute h (next (← h.read path))
  | write path content next => do execute h (next (← h.write path content))
  | openLog path next => do execute h (next (← h.openLog path))
  | emit output next => do
    h.emit output
    execute h next

end Script

end SketchGrader
