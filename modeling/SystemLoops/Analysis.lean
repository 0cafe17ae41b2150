import SystemLoops.Arena
import SystemLoops.Diagnostic

namespace SystemLoops

/-- The analysed form of one update method. A missing arena is told from an empty one. -/
structure Analysis where
  system : Text := []
  package : Text := []
  receiver : Text := []
  imports : List Import := []
  position : Position := {}
  /-- The body of the method with a hole for every outermost iteration. -/
  preamble : Template := []
  storageTypes : Option (List Text) := none
  signatureNames : Option (List Text) := none
  arena : Option Arena := none
  topLevel : List Key := []
  diagnostics : List Diagnostic := []
deriving Repr, DecidableEq, Inhabited

namespace Analysis

def nodes (a : Analysis) : List Node :=
  (a.arena.getD .empty).nodes

def hasErrors (a : Analysis) : Bool :=
  a.diagnostics.any fun d => d.severity == .error

/-- The parents found so far, by the key of the child. -/
abbrev Owners := List (Key × Text)

/-- Record that `parent` has a hole for `key`. -/
def own (a : Analysis) (arena : Arena) (owners : Owners) (key : Key) (parent : Text) :
    Except Failure Owners :=
  if (arena.lookup? key).isNone then
    .error (.around (a.system ++ ": " ++ parent ++ " references ") (.refusal .unknownNode)
      (Text.ofString " " ++ key.render))
  else match owners.lookup key with
    | some other =>
      .error (.plain (a.system ++ ": node " ++ key.render ++ " referenced by both " ++ other
        ++ " and " ++ parent))
    | none => .ok ((key, parent) :: owners)

def ownChildren (a : Analysis) (arena : Arena) (n : Node) : Owners → List Key →
    Except Failure Owners
  | owners, [] => .ok owners
  | owners, key :: rest =>
    if !key.isChildOf n.key then
      .error (.plain (a.system ++ ": node " ++ n.key.render ++ " holds child " ++ key.render
        ++ " at depth " ++ Text.ofNat key.depth.toNat ++ ", want "
        ++ Text.ofNat (n.key.depth + 1).toNat))
    else do
      let owners ← a.own arena owners key n.key.render
      a.ownChildren arena n owners rest

/-- Record the holes of the preamble. -/
def ownTopLevel (a : Analysis) (arena : Arena) : Owners → List Key → Except Failure Owners
  | owners, [] => .ok owners
  | owners, key :: rest => do
    let owners ← a.own arena owners key "preamble"
    a.ownTopLevel arena owners rest

/-- Record the holes of several nodes. -/
def ownNodes (a : Analysis) (arena : Arena) : Owners → List Node → Except Failure Owners
  | owners, [] => .ok owners
  | owners, n :: rest => do
    let owners ← a.ownChildren arena n owners n.body.holes
    a.ownNodes arena owners rest

/-- Check that holes and nodes fit together. -/
def validate (a : Analysis) : Except Failure Unit :=
  match a.arena with
  | none =>
    if a.preamble.holes.isEmpty then .ok ()
    else .error (.plain (a.system ++ ": preamble references nodes but registry is empty"))
  | some arena => do
    let owners ← a.ownTopLevel arena [] a.preamble.holes
    let _ ← a.ownNodes arena owners arena.nodes
    return ()

end Analysis

end SystemLoops
