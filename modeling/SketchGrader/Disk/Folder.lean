import SketchGrader.Disk.Script

/-!
# Folders as values

A folder holds files by their paths; the folders below it are those that its files need. A script
that is run in a folder gives its result, what it gave out, and the folder as it leaves it.
-/

namespace SketchGrader

namespace Path

/-- Applies one part of a path to the parts in front of it, the last of which comes first. -/
def push (above : Option (List Text)) (part : Text) : Option (List Text) :=
  if part.isEmpty || part == ['.'] then above
  else if part == ['.', '.'] then
    match above with
    | some (_ :: rest) => some rest
    | _ => none
  else above.map (part :: ·)

/-- The parts of a path that stays within the folder. -/
def parts? (path : String) : Option (List Text) :=
  if path == "" || path.toList.head? == some '/' then none
  else (((Text.split '/' path.toList).foldl push (some [])).map List.reverse)

/-- Whether a path can only name a folder. -/
def namesFolder (path : String) : Bool :=
  match (Text.split '/' path.toList).getLast? with
  | some last => last.isEmpty || last == ['.'] || last == ['.', '.']
  | none => true

end Path

/-- Files by the parts of their paths. -/
structure Folder where
  files : List (List Text × Text) := []
  deriving DecidableEq, Repr

namespace Folder

def file? (f : Folder) (parts : List Text) : Option Text :=
  (f.files.find? fun entry => entry.1 == parts).map (·.2)

/-- Whether the parts name the folder itself or a folder below it. -/
def isFolder (f : Folder) (parts : List Text) : Bool :=
  parts.isEmpty || f.files.any fun entry => parts.isPrefixOf entry.1 && parts != entry.1

/-- Whether a file stands where the parts need a folder. -/
def isBlocked (f : Folder) (parts : List Text) : Bool :=
  f.files.any fun entry => entry.1.isPrefixOf parts && parts != entry.1

def put (f : Folder) (parts : List Text) (content : Text) : Folder :=
  ⟨(parts, content) :: f.files.filter fun entry => entry.1 != parts⟩

/-- The folder with the given files; of two with one path the last counts. -/
def ofFiles (files : List (String × Text)) : Folder :=
  files.foldl (fun f file => match Path.parts? file.1 with
    | some parts => f.put parts file.2
    | none => f) {}

def read (f : Folder) (path : String) : Except FileError Text :=
  match Path.parts? path with
  | none => .error .missing
  | some parts =>
    match f.file? parts with
    | some content => if Path.namesFolder path then .error .underFile else .ok content
    | none =>
      if f.isBlocked parts then .error .underFile
      else if f.isFolder parts then .error .isFolder
      else .error .missing

def write (f : Folder) (path : String) (content : Text) : Except FileError Folder :=
  match Path.parts? path with
  | none => .error .missing
  | some parts =>
    if f.isBlocked parts then .error .underFile
    else if f.isFolder parts || Path.namesFolder path then .error .isFolder
    else .ok (f.put parts content)

/-- Makes a log file ready; what it holds already stays. -/
def openLog? (f : Folder) (path : String) : Option Folder :=
  match Path.parts? path with
  | none => none
  | some parts => (f.write path ((f.file? parts).getD [])).toOption

/-- Adds a line to a log file. -/
def append (f : Folder) (path line : String) : Folder :=
  match Path.parts? path with
  | none => f
  | some parts => f.put parts ((f.file? parts).getD [] ++ line.toList ++ ['\n'])

end Folder

structure Ran (α : Type) where
  result : α
  outputs : List Output
  folder : Folder

def Script.runIn {α : Type} (f : Folder) : Script α → Ran α
  | done a => ⟨a, [], f⟩
  | read path next => (next (f.read path)).runIn f
  | write path content next =>
    match f.write path content.toList with
    | .ok f' => (next (.ok ())).runIn f'
    | .error e => (next (.error e)).runIn f
  | openLog path next =>
    match f.openLog? path with
    | some f' => (next true).runIn f'
    | none => (next false).runIn f
  | emit output next =>
    let f' := match output with
      | .log path line => f.append path line
      | _ => f
    let ran := next.runIn f'
    { ran with outputs := output :: ran.outputs }

/-- The lines of the result. -/
def Output.standardLines (outputs : List Output) : List String :=
  outputs.filterMap fun output => match output with
    | .standard line => some line
    | _ => none

/-- The lines about the result. -/
def Output.diagnosticLines (outputs : List Output) : List String :=
  outputs.filterMap fun output => match output with
    | .diagnostic line => some line
    | _ => none

end SketchGrader
