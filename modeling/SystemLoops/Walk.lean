import SystemLoops.Analysis
import SystemLoops.Classification
import SystemLoops.Signature
import SystemLoops.Source.Scan

/-!
The walk over an update method. Every iteration is given a key and registered in the arena before its
body is walked, so numbers run in the order in which the calls stand in the source. An iteration
nested deeper than the ceiling is replaced by a comment.
-/

namespace SystemLoops

/-- How a walk names things. -/
structure WalkOptions where
  names : Combinators := {}
  queryLead : Text := Signature.defaultLead
deriving Repr, DecidableEq, Inhabited

/-- The options with the default in place of an empty lead. -/
def WalkOptions.complete (o : WalkOptions) : WalkOptions :=
  if o.queryLead.isEmpty then { o with queryLead := Signature.defaultLead } else o

@[simp] theorem WalkOptions.names_complete (o : WalkOptions) : o.complete.names = o.names := by
  unfold complete
  split <;> rfl

theorem WalkOptions.queryLead_complete (o : WalkOptions) :
    o.complete.queryLead = if o.queryLead = [] then Signature.defaultLead else o.queryLead := by
  by_cases absent : o.queryLead = []
  · simp [complete, absent]
  · simp [complete, absent]

/-- What a walk has gathered so far. -/
structure Walker where
  arena : Arena := {}
  nextId : UInt64 := 0
  storage : OrderedSet Text := {}
  signatures : OrderedSet Text := {}
  diagnostics : List Diagnostic := []
deriving Repr, Inhabited

namespace Walker

/-- What stands in for an iteration nested too deep. -/
def truncatedComment : Text :=
  "// ecsgen: iteration nested deeper than " ++ Text.ofNat maxDepth.toNat ++ " levels omitted"

def note (w : Walker) (d : Diagnostic) : Walker :=
  { w with diagnostics := w.diagnostics ++ [d] }

/-- Note what a statement that is kept as it stands gives rise to. -/
def notePlain (w : Walker) (o : WalkOptions) (source : Text) (position : Position)
    (d : Option Diagnostic) : Walker :=
  match d with
  | some d => w.note d
  | none =>
    if Text.occurs ("." ++ o.names.each ++ "(") source then
      w.note (.remark position
        (o.names.each ++ " call inside a compound statement is not expanded"))
    else w

/-- Whether the first token of a text is `return`. -/
def startsWithReturn (source : Text) : Bool :=
  match Source.codeTokens source with
  | first :: _ => first.tok == .kwReturn
  | [] => false

/-- The parameters that a loop binds: those with a component type. -/
def boundParams (params : List Param) : List Param :=
  params.filter fun p => !p.type.isEmpty

/-- The finding that a parameter of an iteration gives rise to. -/
def paramFinding? (receiver : Text) (position : Position) (p : Param) : Option Diagnostic :=
  if p.type.isEmpty then
    some (.warn position ("parameter " ++ p.name ++ " has no component type and is ignored"))
  else if !p.name.isEmpty && p.name == receiver then
    some (.warn position ("parameter " ++ p.name
      ++ " shadows the receiver; generated field accesses will not resolve"))
  else none

/-- A list as a field that is absent when there is nothing in it. -/
def absentIfEmpty (xs : List α) : Option (List α) :=
  if xs.isEmpty then none else some xs

/-- Register an iteration found at a depth. -/
def enter (w : Walker) (o : WalkOptions) (receiver : Text) (depth : UInt64) (position : Position)
    (params : List Param) (exclusions : List Text) (findings : List Diagnostic) :
    Except Trouble (Key × Walker) := do
  match Fault.requireInRange depth.toNat 0 (maxDepth.toNat - 1 : Nat) "depth" with
  | .error f => .error (.fault f)
  | .ok () =>
    let bound := boundParams params
    let n : Node :=
      { key := ⟨depth, w.nextId⟩, params := absentIfEmpty bound
        exclusions := absentIfEmpty exclusions, position
        signature := Signature.name o.queryLead (bound.map Param.type) }
    match w.arena.register n with
    | .error f => .error (.failure f)
    | .ok arena =>
      .ok (n.key,
        { arena
          nextId := w.nextId + 1
          storage := w.storage.addAll n.types
          signatures := w.signatures.add n.signature
          diagnostics := w.diagnostics ++ params.filterMap (paramFinding? receiver position)
            ++ findings })

/-- Note what a statement that is no iteration gives rise to at a depth. -/
def keep (w : Walker) (o : WalkOptions) (depth : UInt64) : Classified → Walker
  | .plain source position d =>
    let warned :=
      if depth > 0 && startsWithReturn source then
        w.note (.warn position ("return inside an expanded " ++ o.names.each
          ++ " body leaves UpdateGenerated instead of skipping the entity; use continue"))
      else w
    warned.notePlain o source position d
  | .exclusion source position _ d => w.notePlain o source position (some d)
  | .iteration .. => w

mutual

/-- Walk one statement that stands at a depth: zero in the method, one more in every loop. -/
def stmt (o : WalkOptions) (receiver : Text) (depth : UInt64) (w : Walker) :
    Stmt → Except Trouble (Segment × Walker)
  | .callWith source position chain params hasBody inner =>
    match Classified.of o.names (.callWith source position chain params hasBody inner) with
    | .iteration _ _ params exclusions _ findings =>
      if depth ≥ maxDepth then
        .ok (.text truncatedComment, w.note (.warn position (o.names.each ++ " nested deeper than "
          ++ Text.ofNat maxDepth.toNat ++ " levels is not expanded")))
      else
        match w.enter o receiver depth position params exclusions findings with
        | .error t => .error t
        | .ok (key, w) =>
          match body o receiver (depth + 1) w inner with
          | .error t => .error t
          | .ok (segments, w) => .ok (.hole key, { w with arena := w.arena.fill key segments })
    | other => .ok (.text source, w.keep o depth other)
  | st => .ok (.text st.source, w.keep o depth (Classified.of o.names st))

def body (o : WalkOptions) (receiver : Text) (depth : UInt64) (w : Walker) :
    List Stmt → Except Trouble (Template × Walker)
  | [] => .ok ([], w)
  | st :: rest =>
    match stmt o receiver depth w st with
    | .error t => .error t
    | .ok (segment, w) =>
      match body o receiver depth w rest with
      | .error t => .error t
      | .ok (segments, w) => .ok (segment :: segments, w)

end

/-- Walk the statements of a method. The keys of its iterations are gathered beside the preamble. -/
def outermost (o : WalkOptions) (receiver : Text) (w : Walker) (preamble : Template) (topLevel : List Key) :
    List Stmt → Except Trouble (Template × List Key × Walker)
  | [] => .ok (preamble, topLevel, w)
  | st :: rest =>
    match stmt o receiver 0 w st with
    | .error t => .error t
    | .ok (.text kept, w) => outermost o receiver w (preamble ++ [.text kept]) topLevel rest
    | .ok (.hole key, w) => outermost o receiver w (preamble ++ [.hole key]) (topLevel ++ [key]) rest

/-- What is gathered beside the preamble are the keys of its holes. -/
theorem outermost_eq (o : WalkOptions) (receiver : Text) (w : Walker) (preamble : Template)
    (topLevel : List Key) (statements : List Stmt) :
    outermost o receiver w preamble topLevel statements =
      (body o receiver 0 w statements).map fun (segments, w) =>
        (preamble ++ segments, topLevel ++ Template.holes segments, w) := by
  induction statements generalizing w preamble topLevel with
  | nil => simp [outermost, body, Except.map]
  | cons st rest ih =>
    rw [outermost, body]
    cases stmt o receiver 0 w st with
    | error t => rfl
    | ok walked =>
      obtain ⟨segment, w⟩ := walked
      cases segment with
      | text | hole =>
        simp only [ih]
        cases body o receiver 0 w rest <;> simp [Except.map]

/-- Count the nodes met by following holes down from a stack of keys, in at most `steps` steps. -/
def reach (a : Arena) : (steps : Nat) → List Key → Nat
  | 0, _ => 0
  | _, [] => 0
  | steps + 1, key :: rest =>
    match a.lookup? key with
    | none => reach a steps rest
    | some n => reach a steps (n.body.holes ++ rest) + 1

/-- The number of nodes that the outermost iterations lead to. -/
def reachable (a : Arena) (topLevel : List Key) : Nat :=
  reach a (topLevel.length + total (a.slots.map fun n => n.body.holes.length)) topLevel

end Walker

namespace Method

/-- The analysed form of a method. The method must be there and the combinator must have a name. -/
def analyse (m : Option Method) (o : WalkOptions) : Except Trouble Analysis :=
  match m with
  | none => .error (.fault (.contract .precondition "method must not be nil"))
  | some m =>
    if o.names.each.isEmpty then
      .error (.fault (.contract .precondition "combinator name must be set"))
    else
      match Walker.outermost o.complete m.receiver {} [] [] m.body with
      | .error t => .error t
      | .ok (preamble, topLevel, w) =>
        if Walker.reachable w.arena topLevel != w.arena.size then
          .error (.fault (.contract .postcondition (Text.ofNat w.arena.size
            ++ " nodes registered but not every one is reachable from a top-level iteration")))
        else .ok
          { system := m.system, package := m.package, receiver := m.receiver
            imports := m.imports, position := m.position, preamble
            storageTypes := some w.storage.items, signatureNames := some w.signatures.items
            arena := some w.arena, topLevel, diagnostics := w.diagnostics }

end Method

end SystemLoops
