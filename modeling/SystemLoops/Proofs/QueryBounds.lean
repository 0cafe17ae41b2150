import SystemLoops.Proofs.WorldRun
import SystemLoops.World.Query

/-!
Bounds of queries. A query remembers entities while the world changes under it, so a loop over it may come
to entities that have lost their components or exist no more. Main statement: whatever happens to the
world and to its queries, in any order, an entity that a query holds has a slot in the pool of every
component type of the query.
-/

namespace SystemLoops

/-- What a loop binds in a round: the slot, in a pool, of the entity that the query holds there. -/
def Query.slot {α : Type} (q : Query) (p : Pool α) (round : Nat) : Except Fault α :=
  match q.entities[round]? with
  | none => .error (.indexBeyond round q.entities.length)
  | some e =>
    match p.items[e.toNat]? with
    | none => .error (.indexBeyond e.toNat p.items.length)
    | some value => .ok value

/-- A world with the queries that were made over it. -/
structure Session (c : Components) where
  world : World c
  queries : List Query

namespace Session

/-- What happens to a world and to its queries. Loops write slots directly. -/
inductive Request (c : Components) where
  | world (r : World.Request c)
  | overwrite (t : ComponentType) (e : Entity) (value : c.Value t)
  | newQuery (types : List ComponentType)
  | without (i : Nat) (types : List ComponentType)
  | refresh (i : Nat)

variable {c : Components} {s : Session c} {w v : World c} {qs : List Query} {q : Query}
  {t : ComponentType} {e : Entity}

/-- The session after a request. A query that is not there is not asked, and a slot that is not there is
not written. -/
def after (s : Session c) : Request c → Session c
  | .world r => { s with world := s.world.after r }
  | .overwrite t e value =>
    match (s.world.pool t).overwrite e value with
    | .ok p => { s with world := s.world.withPool t p }
    | .error _ => s
  | .newQuery types => { s with queries := s.queries ++ [Query.ofTypes s.world types] }
  | .without i types => { s with queries := s.queries.modify i fun q => q.without s.world types }
  | .refresh i => { s with queries := s.queries.modify i fun q => q.refresh s.world }

/-- The session that a history of requests leads to, from the empty world. -/
def run (history : List (Request c)) : Session c :=
  history.foldl after ⟨.empty, []⟩

/-- Whether an entity has a slot in the pool of a type. -/
def Reaches (w : World c) (t : ComponentType) (e : Entity) : Prop :=
  (w.pools t).isSome ∧ e.toNat < (w.pool t).items.length

/-- Every slot has a mark of presence, and the entities of every query have their slots. -/
structure Bounded (s : Session c) : Prop where
  even : s.world.Even
  inside : ∀ q ∈ s.queries, ∀ t ∈ q.included, ∀ e ∈ q.entities, Reaches s.world t e

/-! ### What keeps slots in place -/

theorem Reaches.after (reached : Reaches w t e) (r : World.Request c) : Reaches (w.after r) t e :=
  ⟨World.pools_after_isSome r reached.1,
    Nat.lt_of_lt_of_le reached.2 (World.length_le_after w r t)⟩

theorem reaches_of_has (even : w.Even) (present : w.has e t = true) : Reaches w t e := by
  refine ⟨?_, ?_⟩
  · cases there : w.pools t with
    | some p => rfl
    | none => simp [World.has, there] at present
  · rw [World.has_eq] at present
    exact (even t).lt_of_has present

theorem has_of_mem_refresh (found : e ∈ (q.refresh w).entities) (asked : t ∈ q.included) :
    w.has e t = true := by
  have accepted := (List.mem_filter.mp found).2
  rw [Query.accepts, Bool.and_eq_true] at accepted
  exact List.all_eq_true.mp accepted.1 t asked

namespace Bounded

theorem empty : Bounded (⟨.empty, []⟩ : Session c) :=
  ⟨.empty, by simp⟩

/-- Queries stay bounded while the world keeps the slots it has. -/
theorem carry (bounded : Bounded ⟨w, qs⟩) (even : v.Even)
    (kept : ∀ t e, Reaches w t e → Reaches v t e) : Bounded ⟨v, qs⟩ :=
  ⟨even, fun q member t asked e found => kept t e (bounded.inside q member t asked e found)⟩

theorem evaluated (bounded : Bounded s) (q : Query) :
    ∀ t ∈ (q.refresh s.world).included, ∀ e ∈ (q.refresh s.world).entities, Reaches s.world t e :=
  fun _ asked _ found => reaches_of_has bounded.even (has_of_mem_refresh found asked)

/-- Writing a slot moves none. -/
theorem overwrite (bounded : Bounded s) (value : c.Value t) :
    Bounded (s.after (.overwrite t e value)) := by
  by_cases inside : e.toNat < (s.world.pool t).items.length
  · simp only [Session.after, Pool.overwrite, if_pos inside]
    refine bounded.carry ?_ ?_
    · intro u
      by_cases here : t = u
      · subst here
        rw [World.pool_withPool_self, Pool.Even, List.length_set]
        exact bounded.even t
      · rw [World.pool_withPool_of_ne here]
        exact bounded.even u
    · intro u f reached
      by_cases here : t = u
      · subst here
        refine ⟨by simp, ?_⟩
        rw [World.pool_withPool_self, List.length_set]
        exact reached.2
      · rw [Reaches, World.pool_withPool_of_ne here, World.pools_withPool_of_ne here]
        exact reached
  · simp only [Session.after, Pool.overwrite, if_neg inside]
    exact bounded

theorem modify (bounded : Bounded s) (i : Nat) {change : Query → Query}
    (anew : ∀ q, ∃ asked : Query, change q = asked.refresh s.world) :
    Bounded { s with queries := s.queries.modify i change } := by
  refine ⟨bounded.even, ?_⟩
  intro q member
  obtain ⟨j, found⟩ := List.mem_iff_getElem?.mp member
  rw [List.getElem?_modify] at found
  split at found
  · obtain ⟨before, -, rfl⟩ := Option.map_eq_some_iff.mp found
    obtain ⟨asked, changed⟩ := anew before
    rw [changed]
    exact bounded.evaluated asked
  · rw [id_map'] at found
    exact bounded.inside q (List.mem_of_getElem? found)

theorem after (bounded : Bounded s) (r : Request c) : Bounded (s.after r) := by
  cases r with
  | world r => exact bounded.carry (bounded.even.after r) fun _ _ reached => reached.after r
  | overwrite t e value => exact bounded.overwrite value
  | newQuery types =>
    refine ⟨bounded.even, ?_⟩
    intro q member
    rcases List.mem_append.mp member with earlier | last
    · exact bounded.inside q earlier
    · rw [List.mem_singleton.mp last]
      exact bounded.evaluated _
  | without i types => exact bounded.modify i fun q => ⟨_, rfl⟩
  | refresh i => exact bounded.modify i fun q => ⟨q, rfl⟩

end Bounded

theorem bounded_run (history : List (Request c)) : (run history).Bounded := by
  -- from any bounded session, since every request moves the start
  suffices kept : ∀ s : Session c, s.Bounded → (history.foldl after s).Bounded by
    exact kept _ .empty
  induction history with
  | nil => exact fun s bounded => bounded
  | cons r rest ih => exact fun s bounded => ih _ (bounded.after r)

/-! ### The bindings of a loop -/

theorem Bounded.exists_slot (bounded : Bounded s) (member : q ∈ s.queries) (asked : t ∈ q.included)
    {round : Nat} (before : round < q.count) :
    ∃ p value, s.world.pools t = some p ∧ q.slot p round = .ok value := by
  obtain ⟨e, held⟩ : ∃ e, q.entities[round]? = some e := ⟨_, List.getElem?_eq_getElem before⟩
  obtain ⟨there, inside⟩ := bounded.inside q member t asked _ (List.mem_of_getElem? held)
  obtain ⟨p, found⟩ := Option.isSome_iff_exists.mp there
  rw [World.pool_of_pools found] at inside
  refine ⟨p, p.items[e.toNat], found, ?_⟩
  simp only [Query.slot, held, List.getElem?_eq_getElem inside]

end Session

end SystemLoops
