import SystemLoops.Batch

namespace SystemLoops

inductive Colour where
  | red | yellow | cyan | grey
deriving Repr, DecidableEq

namespace Colour

def code : Colour → String
  | .red => "\x1b[31m"
  | .yellow => "\x1b[33m"
  | .cyan => "\x1b[36m"
  | .grey => "\x1b[90m"

/-- A text in a colour, when colours are wanted. -/
def paint (c : Colour) (wanted : Bool) (t : Text) : Text :=
  if wanted then Text.ofString c.code ++ t ++ "\x1b[0m" else t

end Colour

namespace Diagnostic

/-- A finding about a system, in one line or two. -/
def display (d : Diagnostic) (system : Text) (coloured : Bool) : Text :=
  let colour : Colour := if d.severity == .error then .red else .yellow
  let place := if d.position.render.isEmpty then system else d.position.render
  let label : Text := d.severity.label ++ ":"
  let told : Text := Colour.grey.paint coloured place ++ ": " ++ colour.paint coloured label ++ " "
    ++ d.message ++ "\n"
  if d.suggestion.isEmpty then told
  else told ++ "  " ++ Colour.cyan.paint coloured d.suggestion ++ "\n"

end Diagnostic

namespace Batch

def displayWarnings (b : Batch) (coloured : Bool) : Text :=
  b.flatMap fun r =>
    (r.diagnostics.filter Diagnostic.isWarning).flatMap fun d => d.display r.system coloured

end Batch

namespace Failure

/-- An error and its causes: the message of the first report in it, and below it what caused that. -/
def display (f : Failure) (coloured : Bool) : Text :=
  let lead := Colour.red.paint coloured "Error: "
  match f.report? with
  | some (.report _ message cause _) =>
    let causes : List Text := match cause with
      | none => []
      | some (.joined causes) => causes.map Failure.message
      | some cause => [cause.message]
    let told : Text := causes.flatMap fun c => Text.ofString "  " ++ c ++ "\n"
    lead ++ message ++ "\n" ++ told
  | _ => lead ++ f.message ++ "\n"

def exitCode : Option Failure → Nat
  | none => 0
  | some f => match f.kind? with
    | some .inputRead | some .outputWrite | some .watch => 2
    | some .inputDecode | some .sourceParse | some .noSystems => 3
    | some .analysis | some .registry | some .strictDiagnostic | some .codeGeneration
    | some .format => 4
    | some .staleOutput => 5
    | _ => 1

end Failure

end SystemLoops
