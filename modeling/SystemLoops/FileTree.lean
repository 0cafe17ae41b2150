import SystemLoops.Failure
import SystemLoops.Text.Path

/-!
The files and folders below the working directory, by clean path. Files are replaced as a whole, through
a temporary file next to them, so a file that cannot be replaced is left as it was.
-/

namespace SystemLoops

/-- Files with their contents, and the folders that hold them. -/
structure FileTree where
  files : List (Text × Text) := []
  folders : List Text := []
deriving Repr, DecidableEq, Inhabited

inductive PathEntry where
  | file (content : Text)
  | folder
deriving Repr, DecidableEq, Inhabited

/-- Why a path cannot be used. -/
inductive PathProblem where
  | missing
  | notFolder
  | isFolder
  | occupied
deriving Repr, DecidableEq

namespace PathProblem

def message : PathProblem → String
  | .missing => "no such file or directory"
  | .notFolder => "not a directory"
  | .isFolder => "is a directory"
  | .occupied => "file exists"

/-- A problem met while doing something to a path. -/
def during (problem : PathProblem) (deed : String) (path : Text) : Failure :=
  .plain (deed ++ " " ++ path ++ ": " ++ problem.message)

end PathProblem

namespace FileTree

/-- The working directory. -/
def root : Text := "."

def file? (t : FileTree) (path : Text) : Option Text :=
  t.files.lookup (Path.clean path)

def isFolder (t : FileTree) (path : Text) : Bool :=
  let p := Path.clean path
  p == root || p == Text.ofString "/" || t.folders.contains p

/-- The folders above a path, outermost first. -/
def parents (path : Text) : List Text :=
  let elements := Text.splitOn 0x2F (Path.clean path)
  (List.range (elements.length - 1)).map fun n => Text.join [0x2F] (elements.take (n + 1))

def absence (t : FileTree) (path : Text) : PathProblem :=
  if (parents path).any fun p => (t.file? p).isSome then .notFolder else .missing

def holds (t : FileTree) (path : Text) : Bool :=
  (t.file? path).isSome || t.isFolder path

/-- The paths that lead to a path, each one element longer, down to the one before the last slash. -/
def leads (path : Text) : List Text :=
  let elements := Text.splitOn 0x2F path
  (List.range (elements.length - 1)).filterMap fun n =>
    let lead := Text.join [0x2F] (elements.take (n + 1))
    if lead.isEmpty then none else some lead

/-- What is at a path, when every path that leads to it is a folder. -/
def lookUp (t : FileTree) (path : Text) : Except PathProblem PathEntry :=
  if path.isEmpty then .error .missing
  else match (leads path).find? fun lead => !t.isFolder lead with
    | some lead => .error (if (t.file? lead).isSome then .notFolder else .missing)
    | none => match t.file? path with
      | some content => .ok (.file content)
      | none => if t.isFolder path then .ok .folder else .error .missing

def read (t : FileTree) (path : Text) : Except Failure Text :=
  match t.lookUp path with
  | .ok (.file content) => .ok content
  | .ok .folder => .error (PathProblem.isFolder.during "read" path)
  | .error problem => .error (problem.during "open" path)

/-- Create a folder with the folders above it. -/
def addFolder (t : FileTree) (path : Text) : FileTree :=
  let wanted := (parents path ++ [Path.clean path]).filter fun p => !t.isFolder p
  { t with folders := t.folders ++ wanted }

def put (t : FileTree) (path content : Text) : FileTree :=
  let p := Path.clean path
  { t with files := t.files.filter (fun f => f.1 != p) ++ [(p, content)] }

/-- Give a file its contents and create the folders above it. -/
def addFile (t : FileTree) (path content : Text) : FileTree :=
  (t.addFolder (Path.dir path)).put path content

/-- Whether a path lies at or below another one. -/
def isWithin (outer path : Text) : Bool :=
  path == outer || (outer ++ [0x2F]).isPrefixOf path

/-- Remove a file, or a folder with all it holds. -/
def delete (t : FileTree) (path : Text) : FileTree :=
  let p := Path.clean path
  { files := t.files.filter fun f => !isWithin p f.1
    folders := t.folders.filter fun f => !isWithin p f }

/-- The name that messages give to temporary files. -/
def temporaryName : Text := ".ecsgen-*"

/-- Replace a file through a temporary one next to it. -/
def replace (t : FileTree) (path content : Text) : Except Failure FileTree :=
  let folder := Path.dir path
  let temporary := if folder == root then "./" ++ temporaryName else Path.join folder temporaryName
  if !t.isFolder folder then
    .error ((if (t.file? folder).isSome then .notFolder else t.absence folder : PathProblem).during
      "open" temporary)
  else if t.isFolder path then
    .error (PathProblem.occupied.during "rename" (temporary ++ " " ++ path))
  else .ok (t.put path content)

/-- The names of the files directly in a folder, in order. -/
def filesIn (t : FileTree) (folder : Text) : Except Failure (List Text) :=
  if t.isFolder folder then
    let p := Path.clean folder
    .ok (((t.files.map Prod.fst).filter fun f => Path.dir f == p).map Path.base
      |>.mergeSort Text.le)
  else if (t.file? folder).isSome then .error (PathProblem.notFolder.during "open" folder)
  else .error ((t.absence folder).during "open" folder)

end FileTree

end SystemLoops
