import SystemLoops.Identifier
import SystemLoops.Node

/-!
Signatures of iterations. Loops over the same component types share one query, named after those
types; the first loop of a name decides what the query leaves out.
-/

namespace SystemLoops

/-- A set of values in the order in which they were first added. -/
structure OrderedSet (α : Type u) where
  items : List α := []
deriving Repr

namespace OrderedSet

variable {α : Type u} [BEq α]

def contains (s : OrderedSet α) (value : α) : Bool :=
  s.items.contains value

/-- Add a value, unless it is there already. -/
def add (s : OrderedSet α) (value : α) : OrderedSet α :=
  if s.contains value then s else ⟨s.items ++ [value]⟩

def addAll (s : OrderedSet α) (values : List α) : OrderedSet α :=
  values.foldl add s

/-- The number of values. -/
def size (s : OrderedSet α) : Nat :=
  s.items.length

end OrderedSet

namespace Signature

/-- What query names begin with unless the configuration says otherwise. -/
def defaultLead : Text := "query_"

/-- The query name of an ordered list of component types. -/
def name (lead : Text) (types : List Text) : Text :=
  lead ++ Text.join "_" (types.map Identifier.sanitize)

end Signature

structure QueryDecl where
  name : Text
  types : List Text
  exclusions : List Text
deriving Repr, DecidableEq, Inhabited

/-- A loop whose exclusions are not those of the query it shares. -/
structure Conflict where
  name : Text
  node : Key
  kept : List Text
  dropped : List Text
deriving Repr, DecidableEq, Inhabited

/-- Queries declared so far, and conflicts met. -/
structure Declared where
  queries : List QueryDecl := []
  conflicts : List Conflict := []
deriving Repr, DecidableEq, Inhabited

namespace Declared

def query? (d : Declared) (name : Text) : Option QueryDecl :=
  d.queries.find? fun q => q.name == name

def add (d : Declared) (n : Node) : Declared :=
  match d.query? n.signature with
  | some q =>
    if q.exclusions == n.excluded then d
    else { d with conflicts := d.conflicts ++ [⟨n.signature, n.key, q.exclusions, n.excluded⟩] }
  | none => { d with queries := d.queries ++ [⟨n.signature, n.types, n.excluded⟩] }

/-- The queries that the nodes share, in the order in which they are first met. -/
def ofNodes (nodes : List Node) : Declared :=
  nodes.foldl add {}

end Declared

end SystemLoops
