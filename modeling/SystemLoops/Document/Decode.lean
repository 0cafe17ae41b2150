import SystemLoops.Format.JsonParse
import SystemLoops.Method
import SystemLoops.Text.Spelling

/-!
Method descriptions read into methods. Fields are found by name, or by name in another case. Fields
that repeat are read into the same place: a position keeps what the later one does not say, and lists
of imports, members, parameters and type arguments are read over the items that were there.
-/

namespace SystemLoops.Document

open Format

/-- Why a description cannot be stored. -/
inductive DecodeError where
  /-- A value has the wrong type. -/
  | mismatch
  /-- A statement has an unknown kind. -/
  | unknownKind (kind : Text)
  /-- The error is inside a part of the description. -/
  | inside (part : Text) (cause : DecodeError)
deriving Repr, DecidableEq, Inhabited

namespace DecodeError

/-- The wording of an error, when it is about the kind of a statement. -/
def message? : DecodeError → Option Text
  | .mismatch => none
  | .unknownKind kind => some ("unknown kind " ++ Text.quote kind)
  | .inside part cause => cause.message?.map fun m => part ++ ": " ++ m

end DecodeError

/-- What reading a value gives: the value stored, and whether something in it had the wrong type. Such
a mismatch is told when the whole value has been read; other errors end the reading at once. -/
structure Stored (α : Type) where
  value : α
  mismatch : Bool := false

namespace Stored

/-- The value, unless something had the wrong type. -/
def finish (s : Stored α) : Except DecodeError α :=
  if s.mismatch then .error .mismatch else .ok s.value

def map (f : α → β) (s : Stored α) : Stored β :=
  ⟨f s.value, s.mismatch⟩

end Stored

/-- A reader stores a value over an old one. -/
abbrev Reader (α : Type) := α → Json → Stored α

def readText : Reader Text
  | _, .string t => ⟨t, false⟩
  | old, .null => ⟨old, false⟩
  | old, _ => ⟨old, true⟩

def readBool : Reader Bool
  | _, .bool b => ⟨b, false⟩
  | old, .null => ⟨old, false⟩
  | old, _ => ⟨old, true⟩

/-- The integer that a numeral denotes, if it is written as one and fits 64 bits. -/
def int64? (literal : Text) : Option Int :=
  let negative := literal.head? == some 0x2D
  match Text.toNat? (if negative then literal.drop 1 else literal) with
  | none => none
  | some n =>
    if negative then (if n ≤ Nat.pow 2 63 then some (-(n : Int)) else none)
    else if n < Nat.pow 2 63 then some n else none

def readInt : Reader Int
  | old, .number literal =>
    match int64? literal with
    | some n => ⟨n, false⟩
    | none => ⟨old, true⟩
  | old, .null => ⟨old, false⟩
  | old, _ => ⟨old, true⟩

/-- The name of a field among the known ones: spelled so, or so up to case. -/
def fieldName? (known : List String) (name : Text) : Option String :=
  (known.find? fun k => Text.ofString k == name).or
    (known.find? fun k => Text.equalFold k name)

def readFields (known : List String) (store : String → Reader α) : Reader α
  | old, .object fields =>
    fields.foldl (fun s (name, v) =>
      match fieldName? known name with
      | none => s
      | some k =>
        let next := store k s.value v
        ⟨next.value, s.mismatch || next.mismatch⟩) ⟨old, false⟩
  | old, .null => ⟨old, false⟩
  | old, _ => ⟨old, true⟩

/-- A list being read: the items in force, and the places behind them that held items before. -/
structure Slots (α : Type) where
  items : Option (List α) := none
  behind : List α := []

/-- Read items over the places of earlier ones. -/
def readItems (read : Reader α) (fresh : α) : (places : List α) → List Json →
    List α × List α × Bool
  | places, [] => ([], places, false)
  | places, v :: rest =>
    let (old, places) := match places with
      | [] => (fresh, [])
      | place :: places => (place, places)
    let stored := read old v
    let (items, behind, bad) := readItems read fresh places rest
    (stored.value :: items, behind, stored.mismatch || bad)

/-- Read a list over the places of an earlier one; an empty list forgets them. -/
def readSlots (read : Reader α) (fresh : α) : Reader (Slots α)
  | _, .array [] => ⟨⟨some [], []⟩, false⟩
  | old, .array vs =>
    let (items, behind, bad) := readItems read fresh (old.items.getD [] ++ old.behind) vs
    ⟨⟨some items, behind⟩, bad⟩
  | _, .null => ⟨{}, false⟩
  | old, _ => ⟨old, true⟩

def readPosition : Reader Position :=
  readFields ["file", "line", "column"] fun name old v =>
    match name with
    | "file" => (readText old.file v).map fun file => { old with file }
    | "line" => (readInt old.line v).map fun line => { old with line }
    | _ => (readInt old.column v).map fun column => { old with column }

def readImport : Reader Import :=
  readFields ["name", "path"] fun name old v =>
    match name with
    | "name" => (readText old.name v).map fun name => { old with name }
    | _ => (readText old.path v).map fun path => { old with path }

def readParam : Reader Param :=
  readFields ["type", "name"] fun name old v =>
    match name with
    | "type" => (readText old.type v).map fun type => { old with type }
    | _ => (readText old.name v).map fun name => { old with name }

/-- A member while its description is read. -/
structure MemberSlots where
  name : Text := []
  typeArgs : Slots Text := {}

def readMember : Reader MemberSlots :=
  readFields ["name", "type_args"] fun name old v =>
    match name with
    | "name" => (readText old.name v).map fun name => { old with name }
    | _ => (readSlots readText [] old.typeArgs v).map fun typeArgs => { old with typeArgs }

/-- Read a list of descriptions that are looked into later. -/
def readRaw : Reader (List Json)
  | _, .array vs => ⟨vs, false⟩
  | _, .null => ⟨[], false⟩
  | old, _ => ⟨old, true⟩

/-- A function literal while its description is read. -/
structure LambdaSlots where
  params : Slots Param := {}
  body : List Json := []
  hasBody : Bool := false

def readLambdaSlots : Reader LambdaSlots :=
  readFields ["params", "body", "has_body"] fun name old v =>
    match name with
    | "params" => (readSlots readParam ⟨[], []⟩ old.params v).map fun params => { old with params }
    | "body" => (readRaw old.body v).map fun body => { old with body }
    | _ => (readBool old.hasBody v).map fun hasBody => { old with hasBody }

/-- A statement while its description is read. -/
structure StmtSlots where
  kind : Text := []
  source : Text := []
  position : Position := {}
  chain : Slots MemberSlots := {}
  lambda : Option Lambda := none

/-- Read several statements, told apart by their number. -/
def readStmtList (read : Json → Except DecodeError Stmt) : (number : Nat) → List Json →
    Except DecodeError (List Stmt)
  | _, [] => .ok []
  | number, v :: rest =>
    match read v with
    | .error e => .error (.inside ("statement " ++ Text.ofNat number) e)
    | .ok st => (readStmtList read (number + 1) rest).map (st :: ·)

/-- The statement that a description denotes. -/
def StmtSlots.toStmt (s : StmtSlots) : Except DecodeError Stmt :=
  let chain := (s.chain.items.getD []).map fun m => ⟨m.name, m.typeArgs.items.getD []⟩
  if s.kind == Text.ofString "text" then .ok (.text s.source s.position)
  else if s.kind == Text.ofString "call" then
    match s.lambda with
    | none => .ok (.call s.source s.position chain)
    | some l => .ok (.callWith s.source s.position chain l.params l.hasBody l.body)
  else .error (.unknownKind s.kind)

/-- Read one field of a statement; a function literal is read as a whole. -/
def storeStmtField (readLambda : Json → Except DecodeError Lambda) (name : String)
    (old : StmtSlots) (v : Json) : Except DecodeError (Stored StmtSlots) :=
  match name with
  | "kind" => .ok ((readText old.kind v).map fun kind => { old with kind })
  | "src" => .ok ((readText old.source v).map fun source => { old with source })
  | "pos" => .ok ((readPosition old.position v).map fun position => { old with position })
  | "chain" => .ok ((readSlots readMember {} old.chain v).map fun chain => { old with chain })
  | _ =>
    match v with
    | .null => .ok ⟨{ old with lambda := none }, false⟩
    | v => (readLambda v).map fun l => ⟨{ old with lambda := some l }, false⟩

def storeStmtFields (readLambda : Json → Except DecodeError Lambda) :
    Stored StmtSlots → List (Text × Json) → Except DecodeError (Stored StmtSlots)
  | s, [] => .ok s
  | s, (name, v) :: rest =>
    match fieldName? ["kind", "src", "pos", "chain", "lambda"] name with
    | none => storeStmtFields readLambda s rest
    | some k =>
      match storeStmtField readLambda k s.value v with
      | .error e => .error e
      | .ok next =>
        storeStmtFields readLambda ⟨next.value, s.mismatch || next.mismatch⟩ rest

/-- The statement of a description that has at most `depth` levels. -/
def readStmtWithin : (depth : Nat) → Json → Except DecodeError Stmt
  | 0, _ => .error .mismatch
  | depth + 1, v =>
    let readLambda (v : Json) : Except DecodeError Lambda :=
      match (readLambdaSlots {} v).finish with
      | .error e => .error e
      | .ok l =>
        match readStmtList (readStmtWithin depth) 0 l.body with
        | .error e => .error (.inside "lambda body" e)
        | .ok body => .ok { params := l.params.items, body, hasBody := l.hasBody }
    match v with
    | .object fields =>
      match storeStmtFields readLambda ⟨{}, false⟩ fields with
      | .error e => .error e
      | .ok stored => stored.finish.bind StmtSlots.toStmt
    | .null => StmtSlots.toStmt {}
    | _ => .error .mismatch

/-- The statement of a description. -/
def readStmt (v : Json) : Except DecodeError Stmt :=
  readStmtWithin v.height v

/-- A method while its description is read. -/
structure MethodSlots where
  system : Text := []
  package : Text := []
  receiver : Text := []
  imports : Slots Import := {}
  body : List Json := []
  position : Position := {}

def readMethodSlots : Reader MethodSlots :=
  readFields ["system", "package", "receiver", "imports", "body", "pos"] fun name old v =>
    match name with
    | "system" => (readText old.system v).map fun system => { old with system }
    | "package" => (readText old.package v).map fun package => { old with package }
    | "receiver" => (readText old.receiver v).map fun receiver => { old with receiver }
    | "imports" =>
      (readSlots readImport ⟨[], []⟩ old.imports v).map fun imports => { old with imports }
    | "body" => (readRaw old.body v).map fun body => { old with body }
    | _ => (readPosition old.position v).map fun position => { old with position }

def readMethod (v : Json) : Except DecodeError Method :=
  match (readMethodSlots {} v).finish with
  | .error e => .error e
  | .ok m =>
    match readStmtList readStmt 0 m.body with
    | .error e => .error (.inside ("method " ++ m.system) e)
    | .ok body => .ok
      { system := m.system, package := m.package, receiver := m.receiver
        imports := m.imports.items.getD [], body, position := m.position }

end SystemLoops.Document
