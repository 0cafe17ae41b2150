import SystemLoops.World

/-!
Queries: the cached list of the entities that have every included component type and none of the
excluded ones. The cache follows the world only when the query is refreshed.
-/

namespace SystemLoops

/-- A query with its entities at the time of the last refresh. -/
structure Query where
  included : List ComponentType
  excluded : List ComponentType := []
  entities : List Entity := []
deriving Repr, DecidableEq

namespace Query

variable {c : Components}

def accepts (q : Query) (w : World c) (e : Entity) : Bool :=
  q.included.all (w.has e) && q.excluded.all fun t => !w.has e t

/-- Evaluate a query again. -/
def refresh (q : Query) (w : World c) : Query :=
  { q with entities := w.entities.filter (q.accepts w) }

def ofTypes (w : World c) (types : List ComponentType) : Query :=
  refresh { included := types } w

def without (q : Query) (w : World c) (types : List ComponentType) : Query :=
  { q with excluded := q.excluded ++ types }.refresh w

/-- The number of entities found. -/
def count (q : Query) : Nat :=
  q.entities.length

end Query

end SystemLoops
