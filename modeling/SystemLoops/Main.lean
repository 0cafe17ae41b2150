import SystemLoops.Watch

namespace SystemLoops.Program

open Cli

private def name (path : Text) : String :=
  path.toString?.getD ""

/-- Whether a file of a folder can matter to a command. -/
private def matters (file : Text) : Bool :=
  (Text.ofString ".go").isSuffixOf file || Config.usualNames.contains file

/-- Add the file or the folder at a path, if there is one. -/
private def load (tree : FileTree) (path : Text) : IO FileTree := do
  let place := (← IO.currentDir) / name path
  if ← place.isDir then
    let mut tree := tree.addFolder path
    for entry in ← place.readDir do
      let file := Text.ofString entry.fileName
      if matters file && !(← entry.path.isDir) then
        tree := tree.addFile (Path.join path file) (← IO.FS.readBinFile entry.path).data.toList
    return tree
  else if ← place.pathExists then
    return tree.addFile path (← IO.FS.readBinFile place).data.toList
  else return tree

private def paths (arguments : List Text) : List Text :=
  FileTree.root :: (arguments.flatMap fun a => [a, a.drop 2, (a.dropWhile (· != 0x3D)).drop 1]).filter
    fun p => !p.isEmpty

/-- What a command can see. -/
private def session (arguments : List Text) : IO Session := do
  let mut files : FileTree := {}
  for path in paths arguments do
    files ← load files path
  let mut environment : List (Text × Text) := []
  for variableName in Text.ofString "NO_COLOR" :: Sources.variableNames do
    match ← IO.getEnv (name variableName) with
    | some value => environment := environment ++ [(variableName, Text.ofString value)]
    | none => pure ()
  let reads := arguments.any fun a => a == Text.ofString "-" || (Text.ofString "=-").isSuffixOf a
  let input ← if reads then (← IO.getStdin).readBinToEnd else pure ByteArray.empty
  return { files, environment, input := input.data.toList, isTerminal := ← (← IO.getStderr).isTty }

private def writeLog (options : LogOptions) (entry : LogEntry) : IO Unit := do
  match options.write "ecsgen" true [entry] with
  | .error f => throw (IO.userError (name f.message))
  | .ok written =>
    for line in written.console do
      IO.eprintln (name line)
    for record in written.records do
      let file ← IO.FS.Handle.mk (name options.file) .append
      file.putStrLn (name (Format.Json.object record.fields).compact)

/-- Put out what a command leaves behind. -/
private def deliver (before : FileTree) (outcome : Ending) : IO Unit := do
  for (path, content) in outcome.files.files do
    if before.file? path != some content then
      let temporary := name (path ++ Text.ofString ".tmp")
      IO.FS.writeBinFile temporary ⟨content.toArray⟩
      IO.FS.rename temporary (name path)
  for emission in outcome.emissions do
    match emission with
    | .output t => (← IO.getStdout).write ⟨t.toArray⟩
    | .error t => (← IO.getStderr).write ⟨t.toArray⟩
    | .log entry => writeLog outcome.log entry

/-- Write units anew whenever the sources in watched folders change. -/
private partial def follow (arguments watched : List Text) (suffix : Text) (before : FileTree) : IO Unit := do
  IO.sleep 150
  let current ← session arguments
  let changed := (Watch.changedFolders before current.files suffix).filter fun folder =>
    watched.any fun w => Path.clean w == folder
  if changed.isEmpty then follow arguments watched suffix current.files
  else
    let outcome := rebuild current arguments changed
    deliver current.files outcome
    follow arguments watched suffix outcome.files

/-- Run the program to its end. -/
def run (arguments : List Text) : IO UInt32 := do
  let current ← session arguments
  let outcome := Cli.run current arguments
  deliver current.files outcome
  if !outcome.watched.isEmpty then
    follow arguments outcome.watched outcome.outputSuffix outcome.files
  return UInt32.ofNat outcome.exitCode

end SystemLoops.Program

/-- Run the program. -/
def main (arguments : List String) : IO UInt32 :=
  SystemLoops.Program.run (arguments.map SystemLoops.Text.ofString)
