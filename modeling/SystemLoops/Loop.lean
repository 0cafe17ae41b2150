import SystemLoops.Arena
import SystemLoops.Signature
import SystemLoops.Source.Indent

/-!
Loops. A node becomes an index loop over its query, with one binding for every named component and the
rendered body inside. Rendering claims nodes from the arena, so it ends on every arena, cyclic or not.
A binding that the body does not read is followed by a blank use.
-/

namespace SystemLoops

/-- How loops address the fields of their system. -/
structure LoopOptions where
  /-- Qualifies every field access; empty for none. -/
  receiver : Text := []
  poolLead : Text := "pool"
deriving Repr, DecidableEq, Inhabited

namespace Loop

/-- What storage field names begin with unless the configuration says otherwise. -/
def defaultPoolLead : Text := "pool"

/-- The storage field of a component type. -/
def poolName (lead type : Text) : Text :=
  lead ++ Identifier.sanitize type

def indexName (depth : UInt64) : Text :=
  "index" ++ Text.ofNat depth.toNat

/-- A field, qualified by the receiver. -/
def field (o : LoopOptions) (name : Text) : Text :=
  if o.receiver.isEmpty then name else o.receiver ++ "." ++ name

/-- Whether a parameter is bound to a variable. -/
def isBound (p : Param) : Bool :=
  !p.name.isEmpty && p.name != Text.ofString "_"

/-- The first line of a loop. -/
def header (index query : Text) : Text :=
  "for " ++ index ++ " := 0; " ++ index ++ " < " ++ query ++ ".Count(); " ++ index ++ "++ \x7b\n"

/-- The lines that bind a parameter. -/
def binding (o : LoopOptions) (index query : Text) (used : List Text) (p : Param) : Text :=
  if !isBound p then [] else
  let bound : Text := "\t" ++ p.name ++ " := &" ++ field o (poolName o.poolLead p.type)
    ++ ".Items[" ++ query ++ ".Entities[" ++ index ++ "]]\n"
  if used.contains p.name then bound else bound ++ "\t_ = " ++ p.name ++ "\n"

/-- The text of a loop over a signature at a depth, around a rendered body that reads `used`. -/
def frame (o : LoopOptions) (depth : UInt64) (signature : Text) (params : List Param)
    (body : Text) (used : List Text) : Text :=
  let index := indexName depth
  let query := field o signature
  let inner := if body.isEmpty then [] else Source.indentBy 1 body ++ [Text.newline]
  header index query ++ params.flatMap (binding o index query used) ++ inner ++ "\x7d"

/-- Names that a loop leaves free: those its body reads and it does not bind. -/
def freeNames (params : List Param) (used : List Text) : List Text :=
  used.filter fun name => !(params.map Param.name).contains name

/-- A rendered piece: its text, and the names it reads from around it. -/
structure Rendered where
  text : Text
  free : List Text
deriving Repr, Inhabited

/-- What rendering did to an arena: its outcome, and the arena that is left, no larger than before. -/
structure Step (a : Arena) (α : Type) where
  outcome : Except Failure α
  arena : Arena
  no_larger : arena.size ≤ a.size

private theorem lex_of_le_of_lt {a b c d : Nat} (first : a ≤ b) (second : c < d) :
    Prod.Lex (· < ·) (· < ·) (a, c) (b, d) := by
  rcases Nat.lt_or_eq_of_le first with smaller | same
  · exact Prod.Lex.left _ _ smaller
  · exact same ▸ Prod.Lex.right _ second

mutual

/-- Claim the node under a key and render its loop, with every loop inside it. -/
def renderNode (o : LoopOptions) (a : Arena) (key : Key) : Step a Rendered :=
  match taken : a.claim key with
  | .error f => ⟨.error f, a, Nat.le_refl _⟩
  | .ok (n, left) =>
    have fewer : left.size < a.size := Arena.size_claim_lt taken
    let inside := renderSegments o n.key left n.body
    have bound : inside.arena.size ≤ a.size := Nat.le_trans inside.no_larger (Nat.le_of_lt fewer)
    match inside.outcome with
    | .error f => ⟨.error f, inside.arena, bound⟩
    | .ok pieces =>
      let used := pieces.flatMap Rendered.free
      let body := Text.unlines (pieces.map Rendered.text)
      ⟨.ok ⟨frame o n.key.depth n.signature n.bindings body used, freeNames n.bindings used⟩,
        inside.arena, bound⟩
termination_by (a.size, 0)
decreasing_by exact Prod.Lex.left _ _ fewer

/-- Render the pieces of the body of the node `parent`. -/
def renderSegments (o : LoopOptions) (parent : Key) (a : Arena) (segments : Template) :
    Step a (List Rendered) :=
  match segments with
  | [] => ⟨.ok [], a, Nat.le_refl _⟩
  | .text source :: rest =>
    let later := renderSegments o parent a rest
    match later.outcome with
    | .error f => ⟨.error f, later.arena, later.no_larger⟩
    | .ok pieces => ⟨.ok (⟨source, Source.identifiers source⟩ :: pieces), later.arena,
        later.no_larger⟩
  | .hole key :: rest =>
    if key.isChildOf parent then
      let child := renderNode o a key
      have bound := child.no_larger
      match child.outcome with
      | .error f => ⟨.error (.around ("node " ++ parent.render ++ ": ") f []), child.arena, bound⟩
      | .ok piece =>
        let later := renderSegments o parent child.arena rest
        match later.outcome with
        | .error f => ⟨.error f, later.arena, Nat.le_trans later.no_larger bound⟩
        | .ok pieces => ⟨.ok (piece :: pieces), later.arena, Nat.le_trans later.no_larger bound⟩
    else ⟨.error (.plain ("node " ++ parent.render ++ ": child " ++ key.render
        ++ " is not one level deeper")), a, Nat.le_refl _⟩
termination_by (a.size, segments.length + 1)
decreasing_by
  · exact Prod.Lex.right _ (by simp)
  · exact Prod.Lex.right _ (by simp)
  · exact lex_of_le_of_lt bound (by simp)

end

/-- Render the loop of a key. The arena that is left has lost the nodes that were claimed, also when
rendering fails. -/
def render (o : LoopOptions) (a : Arena) (key : Key) : Except Failure Text × Arena :=
  let step := renderNode o a key
  (step.outcome.map Rendered.text, step.arena)

end Loop

end SystemLoops
