import SystemLoops.Cli.Session
import SystemLoops.Dump

namespace SystemLoops.Cli

/-- The methods of one output folder. -/
structure Package where
  folder : Text
  methods : List Method
deriving Repr, Inhabited

/-- A command that is about to run. -/
structure Job where
  session : Session
  config : Config
  flags : Flags
deriving Repr, Inhabited

namespace Job

def isColoured (session : Session) (flags : Flags) : Bool :=
  session.isTerminal && !flags.isSet "no-color"
    && ((session.environment.lookup (Text.ofString "NO_COLOR")).getD []).isEmpty

def coloured (j : Job) : Bool :=
  isColoured j.session j.flags

/-- The document that methods are read from; none when it is empty. -/
def document (j : Job) : Text :=
  j.flags.text "input-json" []

/-- The folders that a job is about: the working directory when there are none. -/
def folders (j : Job) : List Text :=
  if j.flags.arguments.isEmpty then [FileTree.root] else j.flags.arguments

/-! ### Input -/

def readFolder (j : Job) (folder : Text) : Action (List Method) := do
  let files := (← get).files
  match files.lookUp folder with
  | .error problem => throw (Failure.unreadable folder (some (problem.during "stat" folder)))
  | .ok (.file _) => throw (Failure.new .invalidInput (folder ++ " is not a directory"))
  | .ok .folder =>
    match Discovery.inFolder files folder j.config.discoveryOptions with
    | .error cause => throw (Failure.unparsable folder (some cause))
    | .ok methods =>
      Action.log .debug "parsed package" [("dir", .text folder), ("systems", .int methods.length)]
      return methods

/-- The text of the document: standard input for a dash. -/
def documentText (j : Job) : Action Text := do
  let path := j.document
  let refused := fun cause : Failure =>
    (Failure.wrap .inputDecode ("invalid method description " ++ path) cause).withContext "path" path
  if path == Text.ofString "-" then return j.session.input
  match (← get).files.lookUp path with
  | .ok (.file content) => return content
  | .ok .folder =>
    throw (refused (.around "read input: " (PathProblem.isFolder.during "read" path) []))
  | .error problem => throw (Failure.unreadable path (some (problem.during "open" path)))

def readDocument (j : Job) : Action (List Method) := do
  let path := j.document
  match Document.decode (← j.documentText) with
  | .error refusal =>
    throw ((Failure.wrap .inputDecode ("invalid method description " ++ path)
      (.plain refusal.message)).withContext "path" path)
  | .ok [] => throw (Failure.new .noSystems (path ++ " describes no methods"))
  | .ok methods => return methods

def readFolders (j : Job) : List Text → Action (List Package)
  | [] => pure []
  | folder :: rest => do
    let methods ← j.readFolder folder
    let later ← j.readFolders rest
    return { folder, methods } :: later

/-- The methods that a job is about. There have to be some. -/
def packages (j : Job) (folders : List Text) : Action (List Package) := do
  if !j.document.isEmpty then
    return [{ folder := j.flags.text "out" FileTree.root, methods := ← j.readDocument }]
  let found ← j.readFolders folders
  if found.all fun p => p.methods.isEmpty then
    throw (Failure.new .noSystems ("no systems embedding " ++ j.config.base ++ " found in ["
      ++ Text.join [0x20] folders ++ "]"))
  return found

/-! ### Processing -/

/-- What the log says about a method. -/
def logOutcome (r : Outcome) : Action Unit := do
  let system : Text × LogValue := ("system", .text r.system)
  match r.failure with
  | some f =>
    let told : Text := if r.analysis.isNone then "analysis failed" else "generation failed"
    Action.log .error told [system, ("error", .text f.message)]
  | none => pure ()
  r.diagnostics.forM fun d => do
    let level : LogLevel :=
      if d.severity == .error then .error else if d.isWarning then .warn else .info
    let hint : List (Text × LogValue) :=
      if d.suggestion.isEmpty then [] else [("suggestion", .text d.suggestion)]
    Action.log level d.message ([system, ("pos", .text d.position.render)] ++ hint)

def process (j : Job) (generates : Bool) (p : Package) : Action Batch := do
  let batch ← Action.ofExcept
    (Batch.run j.config.batchOptions generates j.session.isCancelled p.methods)
  batch.forM logOutcome
  Action.log .info "batch complete"
    [("systems", .int batch.length), ("failed", .int batch.failed), ("generate", .bool generates)]
  return batch

/-- Fail when there are failures, with all of them as the cause. -/
def failOn (kind : FailureKind) (message : Text) (failures : List Failure) : Action Unit :=
  if failures.isEmpty then pure () else throw (Failure.wrap kind message (.joined failures))

/-- The failures of batches, one for each batch that has some. -/
def failuresOf (batches : List Batch) : List Failure :=
  batches.filterMap Batch.failure?

/-! ### Commands -/

/-- Write the units of packages, one package after the other. -/
def writeUnits (j : Job) : List Package → Action (List Batch)
  | [] => pure []
  | p :: rest => do
    let batch ← j.process true p
    Action.warn (batch.displayWarnings j.coloured)
    let written := Output.write Output.tree p.folder (← get).files batch
    modify fun s => { s with files := written.files }
    written.paths.forM fun path => Action.print ("wrote " ++ path ++ "\n")
    match written.failure with
    | some f => throw f
    | none =>
      let later ← j.writeUnits rest
      return batch :: later

/-- Write a generated unit next to every system. -/
def generate (j : Job) (folders : List Text) : Action Unit := do
  let batches ← j.writeUnits (← j.packages folders)
  failOn .codeGeneration "some systems were not generated" (failuresOf batches)

/-- Process packages without writing their units. -/
def checkUnits (j : Job) : List Package → Action (List (Batch × List Failure))
  | [] => pure []
  | p :: rest => do
    let batch ← j.process true p
    Action.warn (batch.displayWarnings j.coloured)
    let stale := Output.stale Output.tree p.folder (← get).files batch
    let later ← j.checkUnits rest
    return (batch, stale) :: later

/-- Fail when a generated unit is missing or out of date. -/
def check (j : Job) : Action Unit := do
  let checked ← j.checkUnits (← j.packages j.folders)
  let stale := checked.flatMap Prod.snd
  failOn .codeGeneration "some systems cannot be generated" (failuresOf (checked.map Prod.fst))
  failOn .staleOutput (Text.ofNat stale.length ++ " generated units are stale") stale
  Action.print "all generated units are up to date\n"

def analyse (j : Job) : List Package → Action (List Batch)
  | [] => pure []
  | p :: rest => do
    let batch ← j.process false p
    let later ← j.analyse rest
    return batch :: later

/-- Print the analysed form of every system. -/
def inspect (j : Job) : Action Unit := do
  let format ← match DumpFormat.parse (j.flags.text "format" "yaml") with
    | .ok format => pure format
    | .error f => throw (Failure.wrap .invalidInput "invalid --format" f)
  let batches ← j.analyse (← j.packages j.folders)
  let analyses := batches.flatMap fun b => b.filterMap Outcome.analysis
  Action.print (Analysis.dump analyses format)
  failOn .analysis "some systems cannot be analysed" (failuresOf batches)

/-- The first folder that cannot be watched. -/
def unwatchable? (files : FileTree) (folders : List Text) : Option Failure :=
  (folders.find? fun folder => !files.holds folder).map fun folder =>
    Failure.wrap .watch "cannot watch sources" (.plain (files.absence folder).message)

/-- Write all units once, and say which folders are to be watched from then on. A failure to write them is
told and does not end the watch. -/
def watch (j : Job) : Action (List Text) := do
  if !j.document.isEmpty then throw (Failure.new .invalidInput "watch works on Go sources only")
  try j.generate j.folders catch f => Action.warn (f.display j.coloured)
  match unwatchable? (← get).files j.folders with
  | some f => throw f
  | none => return if j.session.isCancelled then [] else j.folders

end Job

/-! ### The program -/

/-- How to use the program. -/
def usage : Text :=
  let commandLine := fun c : Command =>
    "  " ++ c.name ++ String.ofList (List.replicate (12 - c.name.length) ' ') ++ c.summary ++ "\n"
  let flagLine := fun f : Flag => Text.ofString "  " ++ f.label ++ Text.ofString "\n"
  Text.ofString ("Generate index loops from ECS system update methods\n\nUsage:\n  ecsgen [command]\n\n"
      ++ "Available Commands:\n" ++ String.join (Command.all.map commandLine) ++ "\nFlags:\n")
    ++ (flagsOf none).flatMap flagLine

/-- Run a command whose flags are read and whose configuration is loaded. -/
def execute (j : Job) : Command → Action (List Text)
  | .generate => do j.generate j.folders; return []
  | .check => do j.check; return []
  | .inspect => do j.inspect; return []
  | .watch => j.watch
  | .help | .completion => do Action.print usage; return []

/-- The flags that set the configuration: all but those that a command takes for itself. -/
def configFlags (command : Command) (flags : Flags) : Flags :=
  match command with
  | .inspect => { flags with given := flags.given.filter fun g => g.1 != "format" }
  | _ => flags

/-- A job for a command: its configuration has to be loadable. -/
def Job.prepare (session : Session) (command : Command) (flags : Flags) : Except Failure Job :=
  match Config.load session.files (flags.text "config" []) session.environment
      (configFlags command flags) with
  | .error problem => .error (Failure.wrap .configLoad "invalid configuration" problem.failure)
  | .ok config => .ok { session, config, flags }

/-- An outcome of nothing but a failure, or of success. -/
def ended (session : Session) (coloured : Bool) (failure : Option Failure) (shown : Text) : Ending :=
  { emissions := match failure with
      | some f => [.error (f.display coloured)]
      | none => [.output shown]
    files := session.files, exitCode := Failure.exitCode failure }

def finish (j : Job) (action : Action (List Text)) : Ending :=
  let start : Progress := { files := j.session.files }
  let (result, progress) := action.run start
  let (failure, watched) : Option Failure × List Text := match result with
    | .ok watched => (none, watched)
    | .error f => (some f, [])
  let told : List Emission := match failure with
    | some f => [.error (f.display j.coloured)]
    | none => []
  { emissions := progress.emissions ++ told, files := progress.files
    exitCode := Failure.exitCode failure, log := j.config.log, watched
    outputSuffix := j.config.outputSuffix }

def run (session : Session) (arguments : List Text) : Ending :=
  let stopped := fun (flags : Flags) (f : Failure) =>
    ended session (Job.isColoured session flags) (some f) []
  match pick arguments with
  | .error f => stopped {} f
  | .ok (command?, rest) =>
    match Flags.read (flagsOf command?) rest with
    | .error problem => stopped {} (.plain problem.message)
    | .ok flags =>
      let usageOnly := ended session false none usage
      match command? with
      | none | some .help | some .completion => usageOnly
      | some command =>
        if flags.isSet "help" then usageOnly
        else match Job.prepare session command flags with
          | .error f => stopped flags f
          | .ok j => finish j (execute j command)

end SystemLoops.Cli
