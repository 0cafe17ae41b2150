import SystemLoops.Fault
import SystemLoops.Node

/-!
Failures: errors that the program reports. A failure may carry its cause, so a report is a tree; the
kind of a tree is the kind of the first report in it that has one.
-/

namespace SystemLoops

/-- What a report is about. The kinds decide the exit code of the command line. -/
inductive FailureKind where
  | inputRead | inputDecode | sourceParse | noSystems | configLoad | outputWrite | staleOutput
  | watch | invalidInput | analysis | registry | strictDiagnostic | codeGeneration | format
  | other (name : Text)
deriving Repr, DecidableEq, Inhabited

namespace FailureKind

def named : List (FailureKind × String) :=
  [(.inputRead, "INPUT_READ_ERROR"), (.inputDecode, "INPUT_DECODE_ERROR"),
   (.sourceParse, "FRONTEND_ERROR"), (.noSystems, "NO_SYSTEMS_FOUND"),
   (.configLoad, "CONFIG_ERROR"), (.outputWrite, "OUTPUT_WRITE_ERROR"),
   (.staleOutput, "STALE_OUTPUT"), (.watch, "WATCH_ERROR"), (.invalidInput, "INVALID_INPUT"),
   (.analysis, "ANALYSIS_ERROR"), (.registry, "REGISTRY_ERROR"),
   (.strictDiagnostic, "STRICT_DIAGNOSTIC"), (.codeGeneration, "CODE_GENERATION_ERROR"),
   (.format, "FORMAT_ERROR")]

def name : FailureKind → Text
  | .other name => name
  | kind => match named.lookup kind with
    | some label => label
    | none => []

def ofName (name : Text) : FailureKind :=
  match named.find? fun (_, label) => Text.ofString label == name with
  | some (kind, _) => kind
  | none => .other name

end FailureKind

/-- How an arena refuses an operation. -/
inductive ArenaRefusal where
  /-- The key was never registered. -/
  | unknownNode
  /-- The node was handed out before. -/
  | alreadyClaimed
  /-- The key was registered before. -/
  | duplicateKey
deriving Repr, DecidableEq

namespace ArenaRefusal

def message : ArenaRefusal → String
  | .unknownNode => "unknown iteration node"
  | .alreadyClaimed => "iteration node already claimed"
  | .duplicateKey => "duplicate iteration node key"

end ArenaRefusal

/-- An error with its causes. -/
inductive Failure where
  /-- A message of its own. -/
  | plain (message : Text)
  /-- The refusal of an arena. -/
  | refusal (cause : ArenaRefusal)
  /-- A cause with words around it. -/
  | around (before : Text) (cause : Failure) (after : Text)
  /-- Several errors, one on a line. -/
  | joined (causes : List Failure)
  /-- The failure of one unit at a stage of its generation. -/
  | unit (stage system message : Text) (cause : Option Failure)
  /-- A report of some kind with facts about it. -/
  | report (kind : FailureKind) (message : Text) (cause : Option Failure)
      (context : List (Text × Text))
  /-- Source text that does not parse. -/
  | badSource
deriving Repr, Inhabited

namespace Failure

/-- A report without a cause. -/
def new (kind : FailureKind) (message : Text) : Failure :=
  .report kind message none []

def wrap (kind : FailureKind) (message : Text) (cause : Failure) : Failure :=
  .report kind message (some cause) []

/-- A report with one more fact; a later fact of a name replaces the earlier one. -/
def withContext (f : Failure) (name value : Text) : Failure :=
  match f with
  | .report kind message cause context =>
    .report kind message cause (context.filter (fun fact => fact.1 != name) ++ [(name, value)])
  | f => f

def refused (cause : ArenaRefusal) (key : Key) : Failure :=
  .around [] (.refusal cause) (Text.ofString ": " ++ key.render)

mutual

/-- The wording of an error. -/
def message : Failure → Text
  | .plain message => message
  | .refusal cause => cause.message
  | .around before cause after => before ++ cause.message ++ after
  | .joined causes => Text.unlines (messages causes)
  | .unit stage system message cause =>
    let staged : Text := if stage.isEmpty then [] else "[" ++ stage ++ "] "
    let told : Text :=
      if system.isEmpty then "generator error: " ++ message
      else "error in system '" ++ system ++ "': " ++ message
    match cause with
    | none => staged ++ told
    | some cause => staged ++ told ++ ": " ++ cause.message
  | .report kind message cause _ =>
    let told : Text := kind.name ++ ": " ++ message
    match cause with
    | none => told
    | some cause => told ++ " (caused by: " ++ cause.message ++ ")"
  | .badSource => "syntax error"

/-- The wordings of several errors. -/
def messages : List Failure → List Text
  | [] => []
  | f :: rest => f.message :: messages rest

end

mutual

/-- The first report in a tree of causes, outermost first. -/
def report? : Failure → Option Failure
  | .report kind message cause context => some (.report kind message cause context)
  | .around _ cause _ => cause.report?
  | .joined causes => firstReport? causes
  | .unit _ _ _ cause => match cause with
    | none => none
    | some cause => cause.report?
  | _ => none

/-- The first report among several trees. -/
def firstReport? : List Failure → Option Failure
  | [] => none
  | f :: rest => f.report?.or (firstReport? rest)

end

/-- The kind of the first report in a tree. -/
def kind? (f : Failure) : Option FailureKind :=
  match f.report? with
  | some (.report kind _ _ _) => some kind
  | _ => none

/-- The cause that an error names as its own, unless it has several. -/
def cause? : Failure → Option Failure
  | .around _ cause _ => some cause
  | .unit _ _ _ cause | .report _ _ cause _ => cause
  | _ => none

/-- Whether an error is the failure of a unit to resolve its nodes. -/
def isRegistry : Failure → Bool
  | .unit stage _ _ _ => stage == Text.ofString "registry"
  | _ => false

/-- Several failures of a batch as one: none, the only one, or a numbered list. -/
def collect : List Failure → Option Failure
  | [] => none
  | [f] => some f
  | fs => some (.plain ("multiple generator errors:\n" ++ Text.unlines (numbered 1 fs)))
where
  /-- The messages with running numbers in front. -/
  numbered (n : Nat) : List Failure → List Text
    | [] => []
    | f :: rest => (Text.ofNat n ++ ". " ++ f.message) :: numbered (n + 1) rest

/-! ### Reports with a fixed wording -/

/-- An input that cannot be read. -/
def unreadable (path : Text) (cause : Option Failure) : Failure :=
  (Failure.report .inputRead ("cannot read " ++ path) cause []).withContext "path" path

/-- Source that cannot be parsed. -/
def unparsable (path : Text) (cause : Option Failure) : Failure :=
  (Failure.report .sourceParse ("cannot parse " ++ path) cause []).withContext "path" path

def inconsistent (system : Text) (cause : Option Failure) : Failure :=
  (Failure.report .registry ("inconsistent iteration registry in " ++ system) cause
    []).withContext "system" system

/-- A generated file that no longer matches its source. -/
def stale (path : Text) : Failure :=
  (new .staleOutput (path ++ " is out of date; run ecsgen generate")).withContext "path" path

end Failure

/-- Why a step did not succeed: an error in its input, or a fault of its own. -/
inductive Trouble where
  | failure (f : Failure)
  | fault (f : Fault)
deriving Repr, Inhabited

end SystemLoops
