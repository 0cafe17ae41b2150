import SystemLoops.Generated.Unit
import SystemLoops.Walk

/-!
Batches: many methods, each processed on its own. The failure of a method, and even a fault met on the
way, is reported against that method and touches no other.
-/

namespace SystemLoops

structure BatchOptions where
  walk : WalkOptions := {}
  unit : UnitOptions := {}
  /-- Whether warnings make a method fail. -/
  strict : Bool := false
deriving Repr, DecidableEq, Inhabited

structure Outcome where
  system : Text
  analysis : Option Analysis := none
  unit : Option GeneratedUnit := none
  failure : Option Failure := none
deriving Repr, Inhabited

namespace Outcome

/-- The findings about a method: those of its unit, or else those of its analysis. -/
def diagnostics (r : Outcome) : List Diagnostic :=
  match r.unit, r.analysis with
  | some u, _ => u.diagnostics
  | none, some a => a.diagnostics
  | none, none => []

def aborted (r : Outcome) (f : Fault) : Outcome :=
  { r with
    unit := none
    failure := some ((Failure.new .analysis (r.system ++ ": " ++ f.message)).withContext
      "system" r.system) }

def failed (r : Outcome) (kind : FailureKind) (told : Text) (cause : Failure) : Outcome :=
  { r with
    failure := some ((Failure.wrap kind (told ++ " " ++ r.system) cause).withContext
      "system" r.system) }

/-- In strict mode a warning fails the method and withdraws its unit. -/
def underStrict (strict : Bool) (r : Outcome) : Outcome :=
  match strict, r.diagnostics.find? Diagnostic.isWarning with
  | true, some d =>
    { r with
      unit := none
      failure := some ((Failure.new .strictDiagnostic d.render).withContext "system" r.system) }
  | _, _ => r

def generate (o : BatchOptions) (a : Analysis) (r : Outcome) : Outcome :=
  match GeneratedUnit.ofAnalysis a o.unit with
  | .error (.fault f) => r.aborted f
  | .error (.failure f) =>
    r.failed (if f.isRegistry then .registry else .codeGeneration) "cannot generate" f
  | .ok unit => underStrict o.strict { r with unit := some unit }

/-- Process one method, with or without generating its unit. -/
def process (o : BatchOptions) (generates : Bool) (m : Method) : Outcome :=
  let r : Outcome := { system := m.system }
  match Method.analyse (some m) o.walk with
  | .error (.fault f) => r.aborted f
  | .error (.failure f) => r.failed .analysis "cannot analyse" f
  | .ok a =>
    let r := { r with analysis := some a }
    if generates then generate o a r else underStrict o.strict r

end Outcome

/-- The outcomes of several methods, in the order of the methods. -/
abbrev Batch := List Outcome

namespace Batch

/-- The error of a run that was told to stop. -/
def cancelled : Failure :=
  .plain "context canceled"

/-- Process every method. A run that is told to stop before it starts has no outcomes, unless there is
nothing to do. -/
def run (o : BatchOptions) (generates isCancelled : Bool) (methods : List Method) :
    Except Failure Batch :=
  if isCancelled && !methods.isEmpty then .error cancelled
  else .ok (methods.map (Outcome.process o generates))

/-- The failures of a batch, in order. -/
def failures (b : Batch) : List Failure :=
  b.filterMap Outcome.failure

def failure? (b : Batch) : Option Failure :=
  Failure.collect b.failures

def failed (b : Batch) : Nat :=
  b.failures.length

def warnings (b : Batch) : Nat :=
  total (b.map fun r => (r.diagnostics.filter Diagnostic.isWarning).length)

def summary (b : Batch) : Text :=
  Text.ofNat b.length ++ " systems, " ++ Text.ofNat b.failed ++ " failed, "
    ++ Text.ofNat b.warnings ++ " warnings"

end Batch

end SystemLoops
