import SketchGrader.Command.App
import SketchGrader.Document.Checked

/-!
# The program

The command run against the real disk, with real pauses.
-/

namespace SketchGrader.Terminal

/-- What an error of the system says about a file. -/
def fileError : IO.Error → FileError
  | .inappropriateType _ code _ =>
    if code == 21 then .isFolder else .underFile
  | _ => .missing

def makeFolder (path : String) : IO Unit := do
  let above := (path.toList.reverse.dropWhile (· != '/')).drop 1
  if !above.isEmpty then IO.FS.createDirAll (String.ofList above.reverse)

def handler : Script.Handler IO where
  read path := do
    match ← (IO.FS.readFile path).toBaseIO with
    | .ok content => return .ok content.toList
    | .error e => return .error (fileError e)
  write path content := do
    let save : IO Unit := do
      makeFolder path
      IO.FS.writeFile path content
    match ← save.toBaseIO with
    | .ok () => return .ok ()
    | .error e => return .error (fileError e)
  openLog path := do
    let touch : IO Unit := do
      makeFolder path
      IO.FS.withFile path .append fun _ => pure ()
    return (← touch.toBaseIO).toOption.isSome
  emit
    | .standard line => IO.println line
    | .diagnostic line => IO.eprintln line
    | .log path line => IO.FS.withFile path .append fun file => file.putStrLn line
    | .pause ms => do
      (← IO.getStdout).flush
      IO.sleep ms.toNat.toUInt32

def loadMessage : LoadError → String
  | .file path e => e.message path
  | .settings objections | .book (.invalid objections) =>
    ", ".intercalate (objections.map fun o => o.reason.code)
  | .book (.noItems kind) => s!"'{kind}' object is not iterable"
  | .sequence e => e.message

def message : Command.AppError → String
  | .load e => loadMessage e
  | .logLevel e => e.message
  | .halt (.fault f) => f.message
  | .halt (.breakdown b) => b.message

/-- The variables that the command looks at. -/
def environmentNames : List String :=
  ["PINLAB_LOGGING", "PINLAB_LOG_LEVEL", "PINLAB_LOG_FILE", "PINLAB_LOG_MODULES"]

end SketchGrader.Terminal

open SketchGrader in
def main (arguments : List String) : IO UInt32 := do
  let values ← Terminal.environmentNames.mapM fun name => return (name, ← IO.getEnv name)
  let environment (name : String) : Option String :=
    (values.find? fun entry => entry.1 == name).bind (·.2)
  match ← (Command.run environment arguments).run.execute Terminal.handler with
  | .ok code => return code.toUInt32
  | .error e =>
    IO.eprintln (Terminal.message e)
    return 1
