import SystemLoops.Format.Value
import SystemLoops.Format.Yaml.Node
import SystemLoops.Format.Yaml.Scalar

namespace SystemLoops.Format.Yaml

/-- The nodes read so far, and those of them that were read through an alias. An alias is short and may stand
for a large part of a document, so a document that unfolds to much more than is written in it is refused. -/
structure Tally where
  nodes : Nat := 0
  aliased : Nat := 0
deriving Repr, DecidableEq, Inhabited

namespace Tally

/-- What a whole is divided into where shares of nodes are compared. -/
def whole : Nat := 360000000

/-- The share of nodes that may be read through aliases: 99 of a hundred in a document of up to 400000
nodes, 10 of a hundred from 4000000 nodes on, and a share that falls evenly in between. -/
def allowedShare (nodes : Nat) : Nat :=
  if nodes ≤ 400000 then 99 * 3600000
  else if nodes ≥ 4000000 then 10 * 3600000
  else 99 * 3600000 - 89 * (nodes - 400000)

/-- Whether too much is read through aliases. Small documents may do as they like. -/
def isExcessive (t : Tally) : Bool :=
  t.aliased > 100 && t.nodes > 1000 && t.aliased * whole > t.nodes * allowedShare t.nodes

/-- Count one more node. -/
def add (t : Tally) (viaAlias : Bool) : Tally :=
  { nodes := t.nodes + 1, aliased := if viaAlias then t.aliased + 1 else t.aliased }

end Tally

/-- A computation that reads nodes, counts them, and may fail. -/
abbrev Reading := StateT Tally Option

/-- Count the node that is about to be read; nothing when too much is read through aliases. -/
def visit (viaAlias : Bool) : Reading Unit := fun t =>
  let t := t.add viaAlias
  if t.isExcessive then none else some ((), t)

def Scalar.value (content : Text) : Scalar → Value
  | .null => .null
  | .bool b => .bool b
  | .int n => .int n
  | .float x => .float x
  | .notFinite spelling => .notFinite spelling
  | .timestamp => .timestamp
  | .text => .text content

/-- The tags of the standard that a scalar is checked against. -/
inductive ScalarTag where
  | text
  | null
  | bool
  | int
  | float
  | timestamp
  | binary
  /-- A tag without a meaning here. -/
  | other
deriving Repr, DecidableEq

namespace ScalarTag

def ofText (t : Text) : ScalarTag :=
  let name := Text.dropPrefix (Text.ofString "tag:yaml.org,2002:") t
  if name == t then .other
  else if name == Text.ofString "str" then .text
  else if name == Text.ofString "null" then .null
  else if name == Text.ofString "bool" then .bool
  else if name == Text.ofString "int" then .int
  else if name == Text.ofString "float" then .float
  else if name == Text.ofString "timestamp" then .timestamp
  else if name == Text.ofString "binary" then .binary
  else .other

end ScalarTag

/-! ### Binary data -/

/-- The value of a digit in base sixty-four. -/
def base64Digit? (b : UInt8) : Option Nat :=
  if 0x41 ≤ b && b ≤ 0x5A then some (b.toNat - 0x41)
  else if 0x61 ≤ b && b ≤ 0x7A then some (b.toNat - 0x61 + 26)
  else if Text.isDecimal b then some (b.toNat - 0x30 + 52)
  else if b == 0x2B then some 62
  else if b == 0x2F then some 63
  else none

/-- The bytes written in base sixty-four, four digits for three of them and padding at the end. -/
def base64Bytes? : Text → Option Text
  | [] => some []
  | a :: b :: c :: d :: rest => do
    let x ← base64Digit? a
    let y ← base64Digit? b
    let first := UInt8.ofNat (x * 4 + y / 16)
    if c == 0x3D then
      if d == 0x3D && rest.isEmpty then some [first] else none
    else
      let z ← base64Digit? c
      let second := UInt8.ofNat (y % 16 * 16 + z / 4)
      if d == 0x3D then
        if rest.isEmpty then some [first, second] else none
      else
        let w ← base64Digit? d
        return [first, second, UInt8.ofNat (z % 4 * 64 + w)] ++ (← base64Bytes? rest)
  | _ => none

/-- The bytes written in base sixty-four, whatever line breaks stand between the digits. -/
def base64? (t : Text) : Option Text :=
  base64Bytes? (t.filter fun b => b != 0x0A && b != 0x0D)

/-! ### Scalars -/

/-- The value of a scalar; nothing when it is not what its tag says. -/
def scalarValue? (tag : Option Text) (plain : Bool) (content : Text) : Option Value :=
  match tag.map ScalarTag.ofText with
  | none => some (if plain then (resolve content).value content else .text content)
  | some .text | some .other => some (.text content)
  | some .binary => (base64? content).map .text
  | some .float => match resolve content with
    | .int n => if n < (Nat.pow 2 63 : Nat) then (Double.ofRatio (n < 0) n.natAbs 1).map .float else none
    | .float x => some (.float x)
    | .notFinite spelling => some (.notFinite spelling)
    | _ => none
  | some .null => if resolve content == .null then some .null else none
  | some .bool => match resolve content with
    | .bool b => some (.bool b)
    | _ => none
  | some .int => match resolve content with
    | .int n => some (.int n)
    | _ => none
  | some .timestamp => if resolve content == .timestamp then some .timestamp else none

/-! ### Mappings -/

/-- What two keys of a mapping must not have in common: how they are written. -/
def Node.label : Node → Nat × Text
  | .scalar _ _ content => (0, content)
  | .sequence _ => (1, [])
  | .mapping _ => (2, [])
  | .alias name _ | .loop name => (3, name)

/-- Whether a key brings in the entries of its value. -/
def Node.isMerge : Node → Bool
  | .scalar none true content => content == Text.ofString "<<"
  | .scalar (some tag) _ content =>
    content == Text.ofString "<<" && tag == Text.ofString "tag:yaml.org,2002:merge"
  | _ => false

/-- Read the text of a key: none for the key that is null, nothing for one that is not a scalar. Binary data
as a key is its bytes. -/
def Node.keyText? (viaAlias : Bool) : Node → Reading (Option Text)
  | .scalar tag plain content => do
    visit viaAlias
    match ← scalarValue? tag plain content with
    | .null => return none
    | .text t => return some t
    | _ => return some content
  | .alias _ target => do
    visit viaAlias
    target.keyText? true
  | _ => failure

/-- Count a key that is looked at once more. -/
def Node.recount (viaAlias : Bool) : Node → Reading Unit
  | .alias _ target => do
    visit viaAlias
    target.recount true
  | _ => visit viaAlias

def Node.isTextKey : Node → Bool
  | .scalar tag plain content =>
    Node.isMerge (.scalar tag plain content) || match tag.map ScalarTag.ofText with
      | none => !plain || resolve content == .text
      | some .text => true
      | _ => false
  | .alias _ target => target.isTextKey
  | _ => false

/-- What makes two keys the same for a merge: whether they are texts, and their spelling. -/
def Node.identity : Node → Bool × Text
  | .scalar tag plain content => match scalarValue? tag plain content with
    | some (.text t) => (true, t)
    | _ => (false, content)
  | .alias _ target => target.identity
  | _ => (false, [])

/-- Whether no two keys are written in the same way. -/
def distinctKeys : List (Node × Node) → Bool
  | [] => true
  | (k, _) :: rest => rest.all (fun e => e.1.label != k.label) && distinctKeys rest

/-- A mapping that is being read. -/
structure Filling where
  entries : List (Text × Value) := []
  /-- The keys that are left out, as long as the entries of other mappings are brought in. -/
  taken : Option (List (Bool × Text)) := none

namespace Filling

def isTaken (f : Filling) (key : Bool × Text) : Bool :=
  f.taken.any fun taken => taken.contains key

/-- Leave out a key from now on, if keys are left out at all. -/
def take (f : Filling) (key : Bool × Text) : Filling :=
  { f with taken := f.taken.map (key :: ·) }

def set (f : Filling) (key : Text) (v : Value) : Filling :=
  { f with entries := f.entries.filter (fun e => e.1 != key) ++ [(key, v)] }

end Filling

mutual

def Node.value? (viaAlias : Bool) : Node → Reading Value
  | .scalar tag plain content => do
    visit viaAlias
    scalarValue? tag plain content
  | .alias _ target => do
    visit viaAlias
    target.value? true
  | .loop _ => failure
  | .sequence items => do
    visit viaAlias
    return .list (← itemValues? viaAlias items)
  | .mapping entries => do
    visit viaAlias
    if distinctKeys entries then
      let textKeys := entries.all fun e => e.1.isTextKey
      return .map (← fill? viaAlias textKeys (entries.map Prod.fst) entries pure {}).entries
    else failure

/-- The values of several nodes. -/
def itemValues? (viaAlias : Bool) : List Node → Reading (List Value)
  | [] => pure []
  | n :: rest => do
    let v ← n.value? viaAlias
    return v :: (← itemValues? viaAlias rest)

/-- Put entries into a mapping, and then what `merge` brings in. `own` are the keys of the mapping. Where all
keys are texts, the value of a null key is not looked at; elsewhere it is, and then left out. -/
def fill? (viaAlias textKeys : Bool) (own : List Node) :
    List (Node × Node) → (merge : Filling → Reading Filling) → Filling → Reading Filling
  | [], merge, f => merge f
  | (k, n) :: rest, merge, f =>
    if k.isMerge then fill? viaAlias textKeys own rest (n.mergeInto? viaAlias textKeys own) f
    else do
      let text ← k.keyText? viaAlias
      let identity := match text with
        | some t => if textKeys then (true, t) else k.identity
        | none => (false, [])
      if (textKeys && text.isNone) || f.isTaken identity then fill? viaAlias textKeys own rest merge f
      else
        let v ← n.value? viaAlias
        let f := f.take identity
        fill? viaAlias textKeys own rest merge (match text with
          | some t => f.set t v
          | none => f)

/-- Bring the entries of a mapping, or of several ones, into another mapping with the keys `own`. -/
def Node.mergeInto? (viaAlias textKeys : Bool) (own : List Node) : Node → Filling → Reading Filling
  | n, f => do
    if f.taken.isNone then own.forM (Node.recount viaAlias)
    let f := { f with taken := f.taken.or (some (own.map Node.identity)) }
    match n with
    | .mapping entries => do
      visit viaAlias
      if distinctKeys entries then fill? viaAlias textKeys [] entries pure f else failure
    | .alias _ (.mapping entries) => do
      visit viaAlias
      visit true
      if distinctKeys entries then fill? true textKeys [] entries pure f else failure
    | .sequence items => mergeItems? viaAlias textKeys items f
    | _ => failure

/-- Bring the entries of several mappings into another one, the earlier ones first. -/
def mergeItems? (viaAlias textKeys : Bool) : List Node → Filling → Reading Filling
  | [], f => pure f
  | .mapping entries :: rest, f => do
    visit viaAlias
    if distinctKeys entries then
      mergeItems? viaAlias textKeys rest (← fill? viaAlias textKeys [] entries pure f)
    else failure
  | .alias _ (.mapping entries) :: rest, f => do
    visit viaAlias
    visit true
    if distinctKeys entries then
      mergeItems? viaAlias textKeys rest (← fill? true textKeys [] entries pure f)
    else failure
  | _, _ => failure

end

/-- The entries of a document, which has to be a mapping or null. Its keys are read as texts. -/
def Node.entries? (n : Node) : Reading (List (Text × Value)) := do
  visit false
  match n with
  | .mapping entries =>
    visit false
    if distinctKeys entries then
      return (← fill? false true (entries.map Prod.fst) entries pure {}).entries
    else failure
  | n =>
    match ← n.value? false with
    | .null => return []
    | _ => failure

/-- The entries at the top of a YAML text, in its first document; none in a text without one. -/
def entries? (t : Text) : Option (List (Text × Value)) := do
  match ← document? (tokens (← characters? t)) with
  | none => return []
  | some n => (n.entries?).run' {}

end SystemLoops.Format.Yaml
