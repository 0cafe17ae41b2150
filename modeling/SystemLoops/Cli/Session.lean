import SystemLoops.Cli.Command
import SystemLoops.Display

namespace SystemLoops.Cli

/-- The surroundings of a command. -/
structure Session where
  files : FileTree := {}
  environment : List (Text × Text) := []
  /-- The text on standard input. -/
  input : Text := []
  /-- Whether the program was told to stop before it started. -/
  isCancelled : Bool := false
  /-- Whether errors go to a terminal. -/
  isTerminal : Bool := false
deriving Repr, Inhabited

/-- Something that a command lets out. -/
inductive Emission where
  | output (t : Text)
  | error (t : Text)
  | log (e : LogEntry)
deriving Repr, Inhabited

/-- What a command has done so far. -/
structure Progress where
  files : FileTree
  emissions : List Emission := []
deriving Repr, Inhabited

/-- A step of a command: it may fail, and what it did before stays done. -/
abbrev Action (α : Type) := ExceptT Failure (StateM Progress) α

namespace Action

/-- Let something out. -/
def emit (e : Emission) : Action Unit :=
  modify fun p => { p with emissions := p.emissions ++ [e] }

def print (t : Text) : Action Unit := emit (.output t)

def warn (t : Text) : Action Unit := emit (.error t)

def log (level : LogLevel) (message : Text) (fields : List (Text × LogValue)) : Action Unit :=
  emit (.log { level, message, fields })

/-- The outcome of a step that may fail. -/
def ofExcept {α : Type} : Except Failure α → Action α
  | .ok a => pure a
  | .error f => throw f

end Action

/-- What a command leaves behind. -/
structure Ending where
  emissions : List Emission
  files : FileTree
  exitCode : Nat
  /-- How the log is kept. -/
  log : LogOptions := {}
  /-- The folders to watch from now on. -/
  watched : List Text := []
  /-- What the names of generated files end with. -/
  outputSuffix : Text := []
deriving Repr, Inhabited

namespace Ending

def output (e : Ending) : Text :=
  e.emissions.flatMap fun
    | .output t => t
    | _ => []

/-- The text on standard error, the log aside. -/
def errors (e : Ending) : Text :=
  e.emissions.flatMap fun
    | .error t => t
    | _ => []

end Ending

end SystemLoops.Cli
