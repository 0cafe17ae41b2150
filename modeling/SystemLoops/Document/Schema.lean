import SystemLoops.Format.Double
import SystemLoops.Format.JsonParse

namespace SystemLoops.Document.Schema

open Format

/-- The field of a name; the last one counts. -/
def field? (fields : List (Text × Json)) (name : String) : Option Json :=
  (fields.reverse.find? fun f => f.1 == Text.ofString name).map Prod.snd

/-- Whether every field is known and every required one is there. -/
def hasFields (fields : List (Text × Json)) (known required : List String) : Bool :=
  fields.all (fun f => known.any fun name => Text.ofString name == f.1)
    && required.all fun name => (field? fields name).isSome

/-- Whether a field, if it is there, satisfies a check. -/
def optional (fields : List (Text × Json)) (name : String) (check : Json → Bool) : Bool :=
  match field? fields name with
  | none => true
  | some v => check v

def isString : Json → Bool
  | .string _ => true
  | _ => false

def isNonEmptyString : Json → Bool
  | .string t => !t.isEmpty
  | _ => false

def isBool : Json → Bool
  | .bool _ => true
  | _ => false

/-- A whole number that is not below zero, in any notation. -/
def isCount : Json → Bool
  | .number literal =>
    match Double.ofDecimal (Decimal.ofNumeral literal) with
    | some x => x.isWhole && !x.isNegative
    | none => false
  | _ => false

/-- A name of ASCII letters, digits and underscores that does not start with a digit. -/
def isSystemName : Json → Bool
  | .string [] => false
  | .string (b :: rest) =>
    let isStart := fun b : UInt8 =>
      (0x41 ≤ b && b ≤ 0x5A) || (0x61 ≤ b && b ≤ 0x7A) || b == 0x5F
    isStart b && rest.all fun b => isStart b || Text.isDecimal b
  | _ => false

def isListOf (check : Json → Bool) : Json → Bool
  | .array items => items.all check
  | _ => false

def isPosition : Json → Bool
  | .object fields =>
    hasFields fields ["file", "line", "column"] [] && optional fields "file" isString
      && optional fields "line" isCount && optional fields "column" isCount
  | _ => false

def isImport : Json → Bool
  | .object fields =>
    hasFields fields ["name", "path"] ["path"] && optional fields "name" isString
      && optional fields "path" isNonEmptyString
  | _ => false

def isMember : Json → Bool
  | .object fields =>
    hasFields fields ["name", "type_args"] ["name"] && optional fields "name" isNonEmptyString
      && optional fields "type_args" (isListOf isNonEmptyString)
  | _ => false

def isParam : Json → Bool
  | .object fields =>
    hasFields fields ["type", "name"] ["type", "name"] && optional fields "type" isString
      && optional fields "name" isString
  | _ => false

def isParams : Json → Bool
  | .null => true
  | v => isListOf isParam v

def isKind : Json → Bool
  | .string t => t == Text.ofString "text" || t == Text.ofString "call"
  | _ => false

/-- Whether a value is a statement, looking at most `levels` down. -/
def isStmtWithin : (levels : Nat) → Json → Bool
  | 0, _ => false
  | levels + 1, .object fields =>
    let isBody := fun v => match v with
      | .null => true
      | v => isListOf (isStmtWithin levels) v
    let isLambda := fun v => match v with
      | .object fields =>
        hasFields fields ["params", "body", "has_body"] ["params", "has_body"]
          && optional fields "params" isParams && optional fields "body" isBody
          && optional fields "has_body" isBool
      | _ => false
    let isCall := match field? fields "kind" with
      | some (.string t) => t == Text.ofString "call"
      | none => true
      | _ => false
    hasFields fields ["kind", "src", "pos", "chain", "lambda"] ["kind", "src"]
      && optional fields "kind" isKind && optional fields "src" isString
      && optional fields "pos" isPosition && optional fields "chain" (isListOf isMember)
      && optional fields "lambda" isLambda && (!isCall || (field? fields "chain").isSome)
  | _ + 1, _ => false

/-- Whether a value is a statement. -/
def isStmt (v : Json) : Bool :=
  isStmtWithin v.height v

def isBody : Json → Bool
  | .null => true
  | v => isListOf isStmt v

def isMethod : Json → Bool
  | .object fields =>
    hasFields fields ["system", "package", "receiver", "imports", "body", "pos"]
        ["system", "body"]
      && optional fields "system" isSystemName && optional fields "package" isString
      && optional fields "receiver" isString && optional fields "imports" (isListOf isImport)
      && optional fields "body" isBody && optional fields "pos" isPosition
  | _ => false

/-- Whether a value is a method description. -/
def accepts : Json → Bool
  | .object fields =>
    hasFields fields ["methods"] ["methods"] && optional fields "methods" (isListOf isMethod)
  | _ => false

end SystemLoops.Document.Schema
