import SystemLoops.Document.Decode
import SystemLoops.Document.Encode
import SystemLoops.Document.Schema

namespace SystemLoops.Document

open Format

/-- The stage at which a document is refused. -/
inductive Refusal where
  | parse
  | schema
  | store (cause : DecodeError)
deriving Repr, DecidableEq, Inhabited

namespace Refusal

def message : Refusal → String
  | .parse => "parse input"
  | .schema => "invalid input"
  | .store _ => "decode input"

end Refusal

/-- The JSON value of a text, when its numbers are in range as well. -/
def parse? (t : Text) : Option Json :=
  match Json.parse? t with
  | some v =>
    if v.allNumbers fun literal => (Double.ofDecimal (Decimal.ofNumeral literal)).isSome then some v
    else none
  | none => none

def readMethods : List Json → Except DecodeError (List Method)
  | [] => .ok []
  | v :: rest =>
    match readMethod v with
    | .error e => .error e
    | .ok m => (readMethods rest).map (m :: ·)

/-- Store every list of methods of a document; the last one counts. -/
def storeMethods : Stored (List Method) → List (Text × Json) →
    Except DecodeError (Stored (List Method))
  | s, [] => .ok s
  | s, (_, .array vs) :: rest =>
    match readMethods vs with
    | .error e => .error e
    | .ok methods => storeMethods ⟨methods, s.mismatch⟩ rest
  | s, (_, .null) :: rest => storeMethods ⟨[], s.mismatch⟩ rest
  | s, _ :: rest => storeMethods ⟨s.value, true⟩ rest

/-- The methods of a value that the schema accepts. -/
def store (v : Json) : Except DecodeError (List Method) :=
  match v with
  | .object fields => (storeMethods ⟨[], false⟩ fields).bind Stored.finish
  | _ => .error .mismatch

def decode (t : Text) : Except Refusal (List Method) :=
  match parse? t with
  | none => .error .parse
  | some v =>
    if !Schema.accepts v then .error .schema
    else match store v with
      | .error e => .error (.store e)
      | .ok methods => .ok methods

/-- The one method that a text describes, without asking the schema. -/
def decodeMethod (t : Text) : Except DecodeError Method :=
  match Json.parse? t with
  | none => .error .mismatch
  | some v => readMethod v

end SystemLoops.Document
