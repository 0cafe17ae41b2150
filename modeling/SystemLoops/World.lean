import SystemLoops.World.Pool

namespace SystemLoops

/-- The component types of a program: for each number a type of values and its zero. -/
structure Components where
  Value : ComponentType → Type
  zero : ∀ t, Value t

/-- The entities of a world and their components. The free numbers are a stack. -/
structure World (c : Components) where
  alive : List Bool
  free : List Entity
  pools : ∀ t, Option (Pool (c.Value t))

namespace World

variable {c : Components}

/-- The world without entities and pools. -/
def empty : World c where
  alive := []
  free := []
  pools := fun _ => none

def isAlive (w : World c) (e : Entity) : Bool :=
  w.alive.getD e.toNat false

/-- Create an entity; the number freed last is used first. -/
def newEntity (w : World c) : Entity × World c :=
  match w.free with
  | e :: free => (e, { w with free, alive := w.alive.set e.toNat true })
  | [] => (UInt32.ofNat w.alive.length, { w with alive := w.alive ++ [true] })

/-- Remove an entity and all its components. -/
def destroy (w : World c) (e : Entity) : World c :=
  if w.isAlive e then
    { alive := w.alive.set e.toNat false
      free := e :: w.free
      pools := fun t => (w.pools t).map fun p => p.remove (c.zero t) e }
  else w

/-- Whether an entity has a component of a type; no pool is created. -/
def has (w : World c) (e : Entity) (t : ComponentType) : Bool :=
  match w.pools t with
  | some p => p.has e
  | none => false

/-- The pool of a type; a type without one has the empty pool. -/
def pool (w : World c) (t : ComponentType) : Pool (c.Value t) :=
  (w.pools t).getD Pool.empty

def withPool (w : World c) (t : ComponentType) (p : Pool (c.Value t)) : World c :=
  { w with pools := fun u => if same : t = u then some (same ▸ p) else w.pools u }

def ensurePool (w : World c) (t : ComponentType) : World c :=
  w.withPool t (w.pool t)

def set (w : World c) (t : ComponentType) (e : Entity) (value : c.Value t) : World c :=
  w.withPool t ((w.pool t).set (c.zero t) e value)

def remove (w : World c) (t : ComponentType) (e : Entity) : World c :=
  w.withPool t ((w.pool t).remove (c.zero t) e)

/-- The entities that exist, in ascending order. -/
def entities (w : World c) : List Entity :=
  (w.alive.zipIdx.filter Prod.fst).map fun (_, i) => UInt32.ofNat i

end World

/-- Iteration calls are expanded before a program runs; the method behind them refuses to run. -/
def unexpandedIteration : Fault :=
  .refused "ecs: Entities.Each must be expanded by ecsgen"

end SystemLoops
