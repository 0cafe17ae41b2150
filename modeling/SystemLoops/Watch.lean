import SystemLoops.Cli.Run

namespace SystemLoops.Watch

/-- Whether a change of a file can affect generated units: source files count, hidden files, tests and
generated files do not. -/
def isRelevant (path outputSuffix : Text) : Bool :=
  let name := Path.base path
  let endsIn := fun suffix : Text => suffix.isSuffixOf name
  endsIn ".go" && name.head? != some 0x2E && !endsIn "_test.go"
    && (outputSuffix.isEmpty || !endsIn outputSuffix)

/-- The folders in which a relevant file differs between two states of the files. -/
def changedFolders (before after : FileTree) (outputSuffix : Text) : List Text :=
  let differs := fun path : Text => isRelevant path outputSuffix && before.file? path != after.file? path
  (((before.files ++ after.files).map Prod.fst).filter differs).map Path.dir |>.eraseDups

end SystemLoops.Watch

namespace SystemLoops.Cli

/-- Write the units of folders that have changed while they were watched. A failure goes to the log. -/
def rebuild (session : Session) (arguments : List Text) (folders : List Text) : Ending :=
  let flags := match pick arguments with
    | .ok (command?, rest) => (Flags.read (flagsOf command?) rest).toOption.getD {}
    | .error _ => {}
  match Job.prepare session .watch flags with
  | .error f => ended session (Job.isColoured session flags) (some f) []
  | .ok j => finish j do
    try j.generate folders catch f =>
      Action.log .error "rebuild failed"
        [("dirs", .text (Text.join [0x20] folders)), ("error", .text f.message)]
    return folders

end SystemLoops.Cli
