import SystemLoops.Method

namespace SystemLoops

/-- How grave a finding is. -/
structure Severity where
  rank : Int
deriving Repr, DecidableEq, Inhabited

namespace Severity

def info : Severity := ⟨0⟩
def warning : Severity := ⟨1⟩
def error : Severity := ⟨2⟩

def label (s : Severity) : String :=
  if s = info then "info" else if s = warning then "warning" else if s = error then "error"
  else "unknown"

def isWarning (s : Severity) : Bool :=
  warning.rank ≤ s.rank

end Severity

/-- A finding, where it was made, and what to do about it. -/
structure Diagnostic where
  severity : Severity
  position : Position := {}
  message : Text
  suggestion : Text := []
deriving Repr, DecidableEq, Inhabited

namespace Diagnostic

def warn (position : Position) (message : Text) : Diagnostic :=
  { severity := .warning, position, message }

def remark (position : Position) (message : Text) : Diagnostic :=
  { severity := .info, position, message }

/-- The finding on one line. -/
def render (d : Diagnostic) : Text :=
  let told := Text.ofString d.severity.label ++ ": " ++ d.message
  let placed :=
    if d.position.isValid || !d.position.file.isEmpty then d.position.render ++ ": " ++ told
    else told
  if d.suggestion.isEmpty then placed else placed ++ " (" ++ d.suggestion ++ ")"

def isWarning (d : Diagnostic) : Bool :=
  d.severity.isWarning

end Diagnostic

end SystemLoops
