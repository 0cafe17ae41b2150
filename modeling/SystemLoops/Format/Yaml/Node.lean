import SystemLoops.Format.Yaml.Token

namespace SystemLoops.Format.Yaml

inductive Node where
  /-- A scalar with its tag, if it has one, and whether it is written without quotes. -/
  | scalar (tag : Option Text) (plain : Bool) (content : Text)
  | sequence (items : List Node)
  | mapping (entries : List (Node × Node))
  | alias (name : Text) (target : Node)
  /-- An alias of a node that it is a part of. -/
  | loop (name : Text)
deriving Repr, Inhabited

/-- The node that is left out where one may stand. -/
def Node.empty : Node :=
  .scalar none true []

/-- What is known while the nodes of a document are read. -/
structure Context where
  tokens : List Token
  /-- The handles that tags may start with. -/
  handles : List (List Char × List Char)
  /-- The nodes with an anchor; none for a node that is not complete. -/
  anchors : List (List Char × Option Node) := []
deriving Repr, Inhabited

namespace Context

def peek (c : Context) : Token :=
  c.tokens.head?.getD .invalid

/-- Move over the next token. -/
def advance (c : Context) : Context :=
  { c with tokens := c.tokens.drop 1 }

/-- The anchor and the tag in front of a node, in either order. -/
def properties (c : Context) : Option (List Char) × Option (List Char × List Char) × Context :=
  match c.tokens with
  | .anchor name :: .tag handle suffix :: rest => (some name, some (handle, suffix), { c with tokens := rest })
  | .tag handle suffix :: .anchor name :: rest => (some name, some (handle, suffix), { c with tokens := rest })
  | .anchor name :: rest => (some name, none, { c with tokens := rest })
  | .tag handle suffix :: rest => (none, some (handle, suffix), { c with tokens := rest })
  | _ => (none, none, c)

/-- The meaning of a tag; nothing when its handle is unknown. The tag `!` alone says nothing. -/
def tagText? (c : Context) (tag : List Char × List Char) : Option (Option Text) :=
  match tag with
  | ([], suffix) => some (if suffix == ['!'] then none else some (Text.ofChars suffix))
  | (handle, suffix) => do
    let uri ← c.handles.lookup handle
    return some (Text.ofChars (uri ++ suffix))

def openAnchor (c : Context) (anchor : Option (List Char)) : Context :=
  match anchor with
  | some name => { c with anchors := (name, none) :: c.anchors }
  | none => c

def closeAnchor (c : Context) (anchor : Option (List Char)) (node : Node) : Context :=
  match anchor with
  | some name => { c with anchors := (name, some node) :: c.anchors }
  | none => c

end Context

/-- Whether a node is left out in front of one of these tokens. -/
private def leftOut (c : Context) (ends : List Token) : Bool :=
  ends.contains c.peek

mutual

/-- Read a node. Collections in blocks can stand where `inBlock` says so, and a sequence that is not
indented more than its key where `afterKey` does. -/
def node : (fuel : Nat) → (inBlock afterKey : Bool) → Context → Option (Node × Context)
  | 0, _, _, _ => none
  | fuel + 1, inBlock, afterKey, c =>
    match c.peek with
    | .alias name => do
      match ← c.anchors.lookup name with
      | some target => return (.alias (Text.ofChars name) target, c.advance)
      | none => return (.loop (Text.ofChars name), c.advance)
    | _ => do
      let (anchor, tag, c) := c.properties
      let tagText ← match tag with
        | some tag => c.tagText? tag
        | none => some none
      let c := c.openAnchor anchor
      let (n, c) ← match c.peek, inBlock, afterKey with
        | .item, _, true => looseItems fuel [] c
        | .scalar plain content, _, _ =>
          some (.scalar tagText plain (Text.ofChars content), c.advance)
        | .openFlowSequence, _, _ => flowItems fuel true [] c.advance
        | .openFlowMapping, _, _ => flowEntries fuel true [] c.advance
        | .openSequence, true, _ => blockItems fuel [] c.advance
        | .openMapping, true, _ => blockEntries fuel [] c.advance
        | _, _, _ =>
          if anchor.isSome || tag.isSome then some (Node.scalar tagText true [], c) else none
      return (n, c.closeAnchor anchor n)

/-- Read a node, or the empty one in front of certain tokens. -/
def optional : (fuel : Nat) → (inBlock afterKey : Bool) → (ends : List Token) → Context →
    Option (Node × Context)
  | 0, _, _, _, _ => none
  | fuel + 1, inBlock, afterKey, ends, c =>
    if leftOut c ends then some (.empty, c) else node fuel inBlock afterKey c

def blockItems : (fuel : Nat) → List Node → Context → Option (Node × Context)
  | 0, _, _ => none
  | fuel + 1, items, c =>
    match c.peek with
    | .item => do
      let (n, c) ← optional fuel true false [.item, .closeBlock] c.advance
      blockItems fuel (items ++ [n]) c
    | .closeBlock => some (.sequence items, c.advance)
    | _ => none

/-- Read the items of a sequence that is not indented more than its key. -/
def looseItems : (fuel : Nat) → List Node → Context → Option (Node × Context)
  | 0, _, _ => none
  | fuel + 1, items, c =>
    match c.peek with
    | .item => do
      let (n, c) ← optional fuel true false [.item, .key, .value, .closeBlock] c.advance
      looseItems fuel (items ++ [n]) c
    | _ => some (.sequence items, c)

def blockEntries : (fuel : Nat) → List (Node × Node) → Context → Option (Node × Context)
  | 0, _, _ => none
  | fuel + 1, entries, c =>
    match c.peek with
    | .key => do
      let (k, c) ← optional fuel true true [.key, .value, .closeBlock] c.advance
      let (v, c) ← blockValue fuel c
      blockEntries fuel (entries ++ [(k, v)]) c
    | .closeBlock => some (.mapping entries, c.advance)
    | _ => none

/-- Read the value after a key of a block mapping. -/
def blockValue : (fuel : Nat) → Context → Option (Node × Context)
  | 0, _ => none
  | fuel + 1, c =>
    match c.peek with
    | .value => optional fuel true true [.key, .value, .closeBlock] c.advance
    | _ => some (.empty, c)

/-- Read the items of a flow sequence. An item may be a mapping of one entry. -/
def flowItems : (fuel : Nat) → (first : Bool) → List Node → Context → Option (Node × Context)
  | 0, _, _, _ => none
  | fuel + 1, first, items, c =>
    match c.peek, first with
    | .closeFlowSequence, _ => some (.sequence items, c.advance)
    | .entry, false => flowItem fuel items c.advance
    | _, true => flowItem fuel items c
    | _, false => none

/-- Read one item of a flow sequence and the ones after it. -/
def flowItem : (fuel : Nat) → List Node → Context → Option (Node × Context)
  | 0, _, _ => none
  | fuel + 1, items, c =>
    match c.peek with
    | .closeFlowSequence => some (.sequence items, c.advance)
    | .key => do
      let (k, c) ← optional fuel false false [.value, .entry, .closeFlowSequence] c.advance
      let (v, c) ← flowValue fuel .closeFlowSequence c
      flowItems fuel false (items ++ [.mapping [(k, v)]]) c
    | _ => do
      let (n, c) ← node fuel false false c
      flowItems fuel false (items ++ [n]) c

/-- Read the value after a key in a flow collection. -/
def flowValue : (fuel : Nat) → (close : Token) → Context → Option (Node × Context)
  | 0, _, _ => none
  | fuel + 1, close, c =>
    match c.peek with
    | .value => optional fuel false false [.entry, close] c.advance
    | _ => some (.empty, c)

def flowEntries : (fuel : Nat) → (first : Bool) → List (Node × Node) → Context → Option (Node × Context)
  | 0, _, _, _ => none
  | fuel + 1, first, entries, c =>
    match c.peek, first with
    | .closeFlowMapping, _ => some (.mapping entries, c.advance)
    | .entry, false => flowEntry fuel entries c.advance
    | _, true => flowEntry fuel entries c
    | _, false => none

/-- Read one entry of a flow mapping and the ones after it. A node without a key mark is a key without a
value. -/
def flowEntry : (fuel : Nat) → List (Node × Node) → Context → Option (Node × Context)
  | 0, _, _ => none
  | fuel + 1, entries, c =>
    match c.peek with
    | .closeFlowMapping => some (.mapping entries, c.advance)
    | .key => do
      let (k, c) ← optional fuel false false [.value, .entry, .closeFlowMapping] c.advance
      let (v, c) ← flowValue fuel .closeFlowMapping c
      flowEntries fuel false (entries ++ [(k, v)]) c
    | _ => do
      let (n, c) ← node fuel false false c
      flowEntries fuel false (entries ++ [(n, .empty)]) c

end

/-! ### Documents -/

/-- The handles that need no directive. -/
def standardHandles : List (List Char × List Char) :=
  [("!".toList, "!".toList), ("!!".toList, "tag:yaml.org,2002:".toList)]

/-- Read the directives in front of a document: at most one version, which has to be 1.1, and no handle
twice. -/
def directives? (versioned : Bool) (handles : List (List Char × List Char)) :
    List Token → Option (List (List Char × List Char) × List Token)
  | .version major minor :: rest =>
    if versioned || major != 1 || minor != 1 then none else directives? true handles rest
  | .handle name uri :: rest =>
    if (handles.lookup name).isSome then none else directives? versioned (handles ++ [(name, uri)]) rest
  | ts => some (handles, ts)

/-- Whether the tokens after the next one can be read as far as the reader looks ahead. -/
def canLookAhead (c : Context) : Bool :=
  !((c.tokens.take 3).contains .invalid)

/-- The first document of a text; nothing for an empty one. -/
def document? (ts : List Token) : Option (Option Node) := do
  let (handles, rest) ← directives? false [] ts
  let explicit := rest.head? == some .documentStart
  if !explicit && rest.length < ts.length then none
  let c : Context := { tokens := if explicit then rest.drop 1 else rest, handles := handles ++ standardHandles }
  match c.peek, explicit with
  | .streamEnd, false => return none
  | first, _ =>
    let isEmpty := explicit && match first with
      | .version _ _ | .handle _ _ | .documentStart | .documentEnd | .streamEnd => true
      | _ => false
    let (n, c) ← if isEmpty then some (Node.empty, c) else node (4 * ts.length + 8) true false c
    if canLookAhead c then return some n else none

end SystemLoops.Format.Yaml
