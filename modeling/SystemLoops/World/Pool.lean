import SystemLoops.Fault

/-!
Sparse pools: the components of one type, indexed by entity. A slot means something only while its
entity is present; a slot whose entity is absent holds the zero of its type.
-/

namespace SystemLoops

/-- An entity of a world; entities index pools directly. -/
abbrev Entity := UInt32

abbrev ComponentType := UInt32

/-- The components of one type: a slot and a mark of presence for each entity. -/
structure Pool (α : Type) where
  items : List α := []
  present : List Bool := []
deriving Repr, DecidableEq

namespace Pool

variable {α : Type}

/-- The pool without slots. -/
def empty : Pool α := {}

def has (p : Pool α) (e : Entity) : Bool :=
  p.present.getD e.toNat false

def get? (p : Pool α) (e : Entity) : Option α :=
  if p.has e then p.items[e.toNat]? else none

/-- Make room for a number of slots. -/
def grow (zero : α) (p : Pool α) (slots : Nat) : Pool α where
  items := p.items ++ List.replicate (slots - p.items.length) zero
  present := p.present ++ List.replicate (slots - p.present.length) false

/-- Store the component of an entity, with new slots up to it where they are missing. -/
def set (zero : α) (p : Pool α) (e : Entity) (value : α) : Pool α :=
  let p := if e.toNat < p.items.length then p else p.grow zero (e.toNat + 1)
  { items := p.items.set e.toNat value, present := p.present.set e.toNat true }

/-- Clear the component of an entity. -/
def remove (zero : α) (p : Pool α) (e : Entity) : Pool α :=
  if p.has e then
    { items := p.items.set e.toNat zero, present := p.present.set e.toNat false }
  else p

/-- Write a slot without looking at presence, as a loop over a query does. -/
def overwrite (p : Pool α) (e : Entity) (value : α) : Except Fault (Pool α) :=
  if e.toNat < p.items.length then .ok { p with items := p.items.set e.toNat value }
  else .error (.indexBeyond e.toNat p.items.length)

end Pool

end SystemLoops
