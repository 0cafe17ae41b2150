import SystemLoops.Failure
import SystemLoops.Node

/-!
Arenas own the nodes of one method. Claiming a node moves it out for good, so that a node is rendered
at most once; its key stays taken.
-/

namespace SystemLoops

/-- The nodes of one method: those still there, the keys of those handed out, and all keys in the
order of registration. -/
structure Arena where
  slots : List Node := []
  claimed : List Key := []
  order : List Key := []
deriving Repr, DecidableEq, Inhabited

namespace Arena

def empty : Arena := {}

/-- The node under a key, if it is still there. -/
def lookup? (a : Arena) (key : Key) : Option Node :=
  a.slots.find? fun n => n.key == key

/-- The number of nodes still there. -/
def size (a : Arena) : Nat :=
  a.slots.length

/-- The nodes still there, in the order of registration. -/
def nodes (a : Arena) : List Node :=
  a.order.filterMap a.lookup?

/-- Add a node under its key. -/
def register (a : Arena) (n : Node) : Except Failure Arena :=
  if (a.lookup? n.key).isSome || a.claimed.contains n.key then
    .error (.refused .duplicateKey n.key)
  else .ok { a with slots := a.slots ++ [n], order := a.order ++ [n.key] }

def claim (a : Arena) (key : Key) : Except Failure (Node × Arena) :=
  if a.claimed.contains key then .error (.refused .alreadyClaimed key)
  else match a.lookup? key with
    | none => .error (.refused .unknownNode key)
    | some n =>
      .ok (n, { a with
        slots := a.slots.filter (fun m => m.key != key), claimed := key :: a.claimed })

/-- A new arena with the nodes still there and no claims. -/
def clone (a : Arena) : Arena :=
  { slots := a.nodes, claimed := [], order := a.nodes.map Node.key }

/-- Give the node under a key its body. -/
def fill (a : Arena) (key : Key) (body : Template) : Arena :=
  { a with slots := a.slots.map fun n => if n.key == key then { n with body } else n }

theorem size_claim_lt {a b : Arena} {key : Key} {n : Node} (taken : a.claim key = .ok (n, b)) :
    b.size < a.size := by
  unfold claim at taken
  split at taken
  · cases taken
  · split at taken
    · cases taken
    · rename_i m found
      cases taken
      obtain ⟨named, member⟩ := And.intro (List.find?_some found) (List.mem_of_find?_eq_some found)
      exact List.length_filter_lt_length_iff_exists.mpr ⟨n, member, by simpa using named⟩

end Arena

end SystemLoops
