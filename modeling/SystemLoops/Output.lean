import SystemLoops.Batch
import SystemLoops.FileTree

namespace SystemLoops.Output

/-- A place that keeps files: what is read back, and how a file is replaced. -/
structure Disk (σ : Type) where
  read? : σ → Text → Option Text
  replace : σ → (path content : Text) → Except Failure σ

/-- Files kept in a tree. -/
def tree : Disk FileTree where
  read? := FileTree.file?
  replace := FileTree.replace

variable {σ : Type}

/-- What writing did: the paths written, the error that stopped it, and the files after it. -/
structure Written (σ : Type) where
  paths : List Text
  failure : Option Failure
  files : σ

def writable? (r : Outcome) : Option GeneratedUnit :=
  match r.failure with
  | some _ => none
  | none => r.unit

/-- Write the units of a batch into a folder. The first file that cannot be written ends it. -/
def write (disk : Disk σ) (folder : Text) : σ → Batch → Written σ
  | files, [] => ⟨[], none, files⟩
  | files, r :: rest =>
    match writable? r with
    | none => write disk folder files rest
    | some unit =>
      let path := Path.join folder unit.fileName
      if disk.read? files path == some unit.source then write disk folder files rest
      else match disk.replace files path unit.source with
        | .error cause =>
          ⟨[], some ((Failure.wrap .outputWrite ("cannot write " ++ path) cause).withContext
            "path" path), files⟩
        | .ok files =>
          let later := write disk folder files rest
          { later with paths := path :: later.paths }

/-- One error for every unit whose file is missing or different. -/
def stale (disk : Disk σ) (folder : Text) (files : σ) (b : Batch) : List Failure :=
  b.filterMap fun r => r.unit.bind fun unit =>
    let path := Path.join folder unit.fileName
    if disk.read? files path == some unit.source then none else some (.stale path)

end SystemLoops.Output
