import SystemLoops.Proofs.QueryBounds
import SystemLoops.Proofs.QueryEvaluation
import SystemLoops.Proofs.SharedQueries

/-!
Bounds of generated loops. A unit makes its storage and its queries when it starts, before and after which
anything may happen to the world. Main statement: a parameter of a loop finds a slot in every round of every
such run exactly when its type is one of those that the query declared under the name of the loop is over, or
when that query asks for a type that it leaves out and so never finds anything.
-/

namespace SystemLoops

namespace World

variable {c : Components} {w : World c} {t : ComponentType} {types more : List ComponentType}
  {r : Request c}

theorem items_after_eq_nil (unset : ∀ e value, r ≠ .set t e value) (bare : (w.pool t).items = []) :
    ((w.after r).pool t).items = [] := by
  have change := change_after w r t
  generalize (w.after r).pool t = p at change ⊢
  cases change with
  | kept => exact bare
  | stored e value => exact absurd rfl (unset e value)
  | cleared =>
    rw [← List.length_eq_zero_iff] at bare ⊢
    exact Pool.length_remove.trans bare

/-- One entity is created and given components of some types. -/
def peopling (types : List ComponentType) : List (Request c) :=
  .newEntity :: types.map fun t => .set t 0 (c.zero t)

/-- A world of one entity, with components of some types and without slots for others. -/
structure Stocked (w : World c) (types : List ComponentType) : Prop where
  alive_eq : w.alive = [true]
  even : w.Even
  has_iff : ∀ t, w.has 0 t = true ↔ t ∈ types
  bare : ∀ t ∉ types, (w.pool t).items = []

namespace Stocked

theorem newEntity : Stocked ((empty : World c).after .newEntity) [] :=
  ⟨rfl, Even.empty.after _, fun _ => by simp [has, after, World.newEntity, empty], fun _ _ => rfl⟩

theorem set (stocked : Stocked w types) (t : ComponentType) :
    Stocked (w.after (.set t 0 (c.zero t))) (t :: types) := by
  refine ⟨stocked.alive_eq, stocked.even.after _, fun u => ?_, fun u other => ?_⟩
  · by_cases here : t = u
    · subst here
      rw [has_eq, after, World.set, pool_withPool_self, Pool.has_set (stocked.even t)]
      simp
    · have untouched : ¬ (Request.set t 0 (c.zero t)).Touches 0 u := fun touched => here touched.1
      rw [(component_after_of_untouched stocked.even untouched).1, stocked.has_iff, List.mem_cons,
        or_iff_right (Ne.symm here)]
  · rw [List.mem_cons, not_or] at other
    refine items_after_eq_nil (fun e value same => ?_) (stocked.bare u other.2)
    injection same with type
    exact other.1 type.symm

theorem setAll (stocked : Stocked w types) (more : List ComponentType) :
    Stocked ((more.map fun t => Request.set t 0 (c.zero t)).foldl after w) (more.reverse ++ types) := by
  induction more generalizing w types with
  | nil => exact stocked
  | cons t rest ih =>
    have stored := ih (stocked.set t)
    rwa [List.reverse_cons, List.append_assoc, List.singleton_append]

theorem run_peopling (types : List ComponentType) : Stocked (run (peopling types) : World c) types.reverse :=
  List.append_nil types.reverse ▸ newEntity.setAll types

theorem ensurePools (stocked : Stocked w types) (more : List ComponentType) :
    Stocked ((more.map Request.ensurePool).foldl after w) types := by
  induction more generalizing w with
  | nil => exact stocked
  | cons t rest ih =>
    refine ih ⟨stocked.alive_eq, stocked.even.after _, fun u => ?_, fun u other => ?_⟩
    · rw [(component_after_of_untouched stocked.even id).1, stocked.has_iff]
    · refine items_after_eq_nil (fun e value same => ?_) (stocked.bare u other)
      cases same

/-- The one entity is found by every query over types that it has, if none that it has is left out. -/
theorem mem_query (stocked : Stocked w types) (k : Construction ComponentType)
    (asked : ∀ t ∈ k.included, t ∈ types) (left : ∀ t ∈ k.calls.flatten, t ∉ types) :
    0 ∈ (k.query w).entities := by
  have fits : w.alive.length ≤ UInt32.size := by
    rw [stocked.alive_eq]
    decide
  rw [k.query_eq, Query.without, Query.mem_refresh_iff fits]
  refine ⟨?_, fun t member => (stocked.has_iff t).mpr (asked t member), fun t member => ?_⟩
  · rw [isAlive, stocked.alive_eq]
    rfl
  · rw [← Bool.not_eq_true, stocked.has_iff]
    exact left t (by simpa [Query.ofTypes, Query.refresh] using member)

end Stocked

end World

/-! ### Queries of a unit -/

/-- A query is made over the types of a construction and leaves out its types, possibly more, and holds what it
found in some world. -/
structure Query.Follows (c : Components) (k : Construction ComponentType) (q : Query) : Prop where
  included_eq : q.included = k.included
  excluded_of_mem : ∀ t ∈ k.calls.flatten, t ∈ q.excluded
  evaluated : ∃ w : World c, q.entities = (q.refresh w).entities

namespace Query.Follows

variable {c : Components} {k : Construction ComponentType} {q : Query}

theorem refresh (follows : q.Follows c k) (w : World c) : (q.refresh w).Follows c k :=
  ⟨follows.included_eq, follows.excluded_of_mem, w, rfl⟩

theorem without (follows : q.Follows c k) (w : World c) (types : List ComponentType) :
    (q.without w types).Follows c k :=
  ⟨follows.included_eq, fun t member => List.mem_append_left _ (follows.excluded_of_mem t member), w, rfl⟩

theorem query (k : Construction ComponentType) (w : World c) : (k.query w).Follows c k := by
  rw [k.query_eq]
  exact ⟨rfl, fun _ member => member, w, rfl⟩

theorem entities_eq_nil (follows : q.Follows c k) {t : ComponentType} (asked : t ∈ k.included)
    (left : t ∈ k.calls.flatten) : q.entities = [] := by
  obtain ⟨w, found⟩ := follows.evaluated
  rw [List.eq_nil_iff_forall_not_mem, found]
  intro e member
  have accepted := Query.accepts_iff.mp (List.mem_filter.mp member).2
  have present := accepted.1 t (follows.included_eq ▸ asked)
  rw [accepted.2 t (follows.excluded_of_mem t left)] at present
  cases present

end Query.Follows

namespace Session

variable {c : Components} {s : Session c} {w : World c} {qs : List Query} {place : Nat}
  {k : Construction ComponentType}

/-- What makes queries in a session, the first of them at a place. -/
def making : (place : Nat) → List (Construction ComponentType) → List (Request c)
  | _, [] => []
  | place, k :: rest => .newQuery k.included :: k.calls.map (.without place) ++ making (place + 1) rest

/-- The storage that the unit of a method asks for, with types named by their numbers. -/
def storing (number : Text → ComponentType) (a : Analysis) : List (World.Request c) :=
  ((a.storageTypes.getD []).map number).map .ensurePool

/-- How the unit of a method makes its queries. -/
def constructions (number : Text → ComponentType) (a : Analysis) : List (Construction ComponentType) :=
  (Declared.ofNodes a.nodes).queries.map fun q => (Construction.ofDecl q).map number

/-- What the unit of a method asks for when it starts: storage, then queries. -/
def starting (number : Text → ComponentType) (a : Analysis) (place : Nat) : List (Request c) :=
  (storing number a).map .world ++ making place (constructions number a)

/-- A session in which the unit of a method starts between two histories. -/
def started (number : Text → ComponentType) (a : Analysis) (before later : List (Request c)) : Session c :=
  run (before ++ starting number a (run before).queries.length ++ later)

/-- In every round over the query at a place, a component type has a pool with a slot to bind. -/
def Serves (s : Session c) (place : Nat) (t : ComponentType) : Prop :=
  ∀ q, s.queries[place]? = some q → ∀ round < q.count,
    ∃ p value, s.world.pools t = some p ∧ q.slot p round = .ok value

/-! ### The start of a unit -/

theorem foldl_world (history : List (World.Request c)) :
    (history.map Request.world).foldl after ⟨w, qs⟩ = ⟨history.foldl World.after w, qs⟩ := by
  induction history generalizing w with
  | nil => rfl
  | cons r rest ih => exact ih

theorem foldl_without (calls : List (List ComponentType)) (q : Query) :
    (calls.map (Request.without qs.length)).foldl after ⟨w, qs ++ [q]⟩ =
      ⟨w, qs ++ [calls.foldl (fun q types => q.without w types) q]⟩ := by
  induction calls generalizing q with
  | nil => rfl
  | cons types rest ih =>
    have modified : (qs ++ [q]).modify qs.length (fun q => q.without w types) = qs ++ [q.without w types] := by
      rw [List.modify_eq_set_getElem?]
      simp
    rw [List.map_cons, List.foldl_cons, after, modified]
    exact ih _

theorem foldl_making (constructions : List (Construction ComponentType)) :
    (making qs.length constructions).foldl after ⟨w, qs⟩ = ⟨w, qs ++ constructions.map (·.query w)⟩ := by
  induction constructions generalizing qs with
  | nil => simp [making]
  | cons k rest ih =>
    have made : (Request.newQuery k.included :: k.calls.map (.without qs.length)).foldl after ⟨w, qs⟩ =
        ⟨w, qs ++ [k.query w]⟩ := foldl_without k.calls (Query.ofTypes w k.included)
    have later : (making (qs ++ [k.query w]).length rest).foldl after ⟨w, qs ++ [k.query w]⟩ =
        ⟨w, (qs ++ [k.query w]) ++ rest.map (·.query w)⟩ := ih
    rw [List.length_append, List.length_singleton] at later
    rw [making, List.foldl_append, made, later, List.append_assoc, List.singleton_append, List.map_cons]

theorem foldl_starting (number : Text → ComponentType) (a : Analysis) (s : Session c) :
    (starting number a s.queries.length).foldl after s =
      ⟨(storing number a).foldl World.after s.world, s.queries ++ (constructions number a).map
        (·.query ((storing number a).foldl World.after s.world))⟩ := by
  rw [starting, List.foldl_append, foldl_world]
  exact foldl_making _

/-! ### A query after the start -/

/-- Whatever happens next, a query follows the construction it was made by. -/
theorem follows_after (held : ∃ q, s.queries[place]? = some q ∧ q.Follows c k) (r : Request c) :
    ∃ q, (s.after r).queries[place]? = some q ∧ q.Follows c k := by
  obtain ⟨q, found, follows⟩ := held
  have modified (i : Nat) {change : Query → Query} (kept : (change q).Follows c k) :
      ∃ q, (s.queries.modify i change)[place]? = some q ∧ q.Follows c k := by
    rw [List.getElem?_modify, found, Option.map_eq_map, Option.map_some]
    split
    · exact ⟨_, rfl, kept⟩
    · exact ⟨q, rfl, follows⟩
  cases r with
  | world r => exact ⟨q, found, follows⟩
  | overwrite t e value =>
    simp only [after]
    split
    · exact ⟨q, found, follows⟩
    · exact ⟨q, found, follows⟩
  | newQuery types =>
    have inside := (List.getElem?_eq_some_iff.mp found).1
    exact ⟨q, (List.getElem?_append_left inside).trans found, follows⟩
  | without i types => exact modified i (follows.without s.world types)
  | refresh i => exact modified i (follows.refresh s.world)

theorem follows_foldl (held : ∃ q, s.queries[place]? = some q ∧ q.Follows c k) (history : List (Request c)) :
    ∃ q, (history.foldl after s).queries[place]? = some q ∧ q.Follows c k := by
  induction history generalizing s with
  | nil => exact held
  | cons r rest ih => exact ih (follows_after held r)

variable {number : Text → ComponentType} {a : Analysis} {d : QueryDecl} {t : ComponentType}

/-- Once a unit has started, each of its queries is the one it declared. -/
theorem follows_started (declared : (Declared.ofNodes a.nodes).queries[place]? = some d)
    (before later : List (Request c)) :
    ∃ q, (started number a before later).queries[(run before).queries.length + place]? = some q ∧
      q.Follows c ((Construction.ofDecl d).map number) := by
  have start : run (before ++ starting number a (run before).queries.length) =
      (starting number a (run before).queries.length).foldl after (run before) := List.foldl_append
  rw [foldl_starting] at start
  rw [started, run, List.foldl_append]
  refine follows_foldl ?_ later
  rw [← run, start, List.getElem?_append_right (Nat.le_add_right _ _), Nat.add_sub_cancel_left,
    List.getElem?_map, constructions, List.getElem?_map, declared]
  exact ⟨_, rfl, .query _ _⟩

/-! ### Rounds of a loop -/

theorem slot_ne_ok {α : Type} {q : Query} {p : Pool α} (bare : p.items = []) (round : Nat) (value : α) :
    q.slot p round ≠ .ok value := by
  intro same
  unfold Query.slot at same
  rw [bare] at same
  split at same
  · cases same
  · cases same

/-- A world in which the query of a unit finds an entity while another component type has no slots. -/
theorem exists_unserved (declared : (Declared.ofNodes a.nodes).queries[place]? = some d)
    (missing : t ∉ d.types.map number) (sound : ∀ u ∈ d.exclusions.map number, u ∉ d.types.map number) :
    ∃ before : List (Request c),
      ¬ Serves (started number a before []) ((run before).queries.length + place) t := by
  -- the world in which the unit makes its queries
  have stocked := (World.Stocked.run_peopling (c := c) (d.types.map number)).ensurePools
    ((a.storageTypes.getD []).map number)
  rw [← storing] at stocked
  have before : run ((World.peopling (d.types.map number)).map Request.world) =
      (⟨World.run (World.peopling (d.types.map number)), []⟩ : Session c) := foldl_world _
  generalize World.run (World.peopling (d.types.map number)) = w at stocked before
  have reached := foldl_starting number a (⟨w, []⟩ : Session c)
  generalize (storing number a).foldl World.after w = v at stocked reached
  refine ⟨(World.peopling (d.types.map number)).map .world, fun served => ?_⟩
  rw [started, List.append_nil, run, List.foldl_append, ← run, before, reached, List.nil_append,
    List.length_nil, Nat.zero_add] at served
  have held : ((constructions number a).map (·.query v))[place]? =
      some (((Construction.ofDecl d).map number).query v) := by
    rw [List.getElem?_map, constructions, List.getElem?_map, declared]
    rfl
  have found : 0 ∈ (((Construction.ofDecl d).map number).query v).entities := by
    refine stocked.mem_query _ (fun u asked => List.mem_reverse.mpr asked) fun u left => ?_
    rw [Construction.flatten_calls_ofDecl] at left
    exact mt List.mem_reverse.mp (sound u left)
  obtain ⟨p, value, there, slot⟩ := served _ held 0 (List.length_pos_of_mem found)
  have bare := stocked.bare t (mt List.mem_reverse.mp missing)
  rw [World.pool_of_pools there] at bare
  exact slot_ne_ok bare 0 value slot

/-- A component type is served in every run exactly if the declared query is over it, or never finds
anything. -/
theorem served_iff (declared : (Declared.ofNodes a.nodes).queries[place]? = some d) (t : ComponentType) :
    (∀ before later : List (Request c),
      Serves (started number a before later) ((run before).queries.length + place) t) ↔
    t ∈ d.types.map number ∨ ∃ u ∈ d.types.map number, u ∈ d.exclusions.map number := by
  constructor
  · intro served
    by_contra unserved
    rw [not_or] at unserved
    obtain ⟨before, fails⟩ := exists_unserved (c := c) declared unserved.1
      fun u left asked => unserved.2 ⟨u, asked, left⟩
    exact fails (served before [])
  · rintro kind before later q found round inside
    obtain ⟨same, held, follows⟩ := follows_started (c := c) declared before later
    obtain rfl : same = q := Option.some.inj (held.symm.trans found)
    rcases kind with asked | ⟨u, asked, left⟩
    · refine (bounded_run _).exists_slot (List.mem_of_getElem? found) ?_ inside
      rw [follows.included_eq]
      exact asked
    · rw [← Construction.flatten_calls_ofDecl] at left
      rw [Query.count, follows.entities_eq_nil asked left] at inside
      exact absurd inside (Nat.not_lt_zero _)

/-- After every history, each component type of a query has a pool with a mark of presence and a slot for
every entity that the query holds, also when the entity has lost the component or does not exist any
more, and in every round each of these pools has a slot to bind. A loop reads the query that its unit
declared under its name, which need not be over its own types: a parameter of the loop finds a slot in every
round of every run, whatever happened before the unit started and whatever happens later, exactly if that
query is over its type, or leaves out a type that it asks for. -/
theorem slots_in_bounds_iff :
    (∀ history : List (Request c), ∀ q ∈ (run history).queries, ∀ t ∈ q.included,
      (∀ e ∈ q.entities, ∃ p, (run history).world.pools t = some p ∧ p.present.length = p.items.length ∧
        e.toNat < p.items.length) ∧
      ∀ round < q.count, ∃ p value, (run history).world.pools t = some p ∧ q.slot p round = .ok value) ∧
    ∀ (a : Analysis) (number : Text → ComponentType), ∀ n ∈ a.nodes, ∃ place d,
      (Declared.ofNodes a.nodes).queries[place]? = some d ∧
      (Declared.ofNodes a.nodes).query? n.signature = some d ∧
      ∀ param ∈ n.bindings,
        (∀ before later : List (Request c), Serves (started number a before later)
          ((run before).queries.length + place) (number param.type)) ↔
        number param.type ∈ d.types.map number ∨ ∃ u ∈ d.types.map number, u ∈ d.exclusions.map number := by
  refine ⟨fun history q member t asked => ⟨fun e found => ?_, fun round before => ?_⟩, fun a number n member => ?_⟩
  · have bounded := bounded_run history
    obtain ⟨there, inside⟩ := bounded.inside q member t asked e found
    obtain ⟨p, kept⟩ := Option.isSome_iff_exists.mp there
    have even := bounded.even t
    rw [World.pool_of_pools kept] at inside even
    exact ⟨p, kept, even.symm, inside⟩
  · exact (bounded_run history).exists_slot member asked before
  · obtain ⟨first, -, -, shared⟩ := Declared.exists_first member
    obtain ⟨place, declared⟩ := List.mem_iff_getElem?.mp (List.mem_of_find?_eq_some shared)
    exact ⟨place, _, declared, shared, fun param _ => served_iff declared (number param.type)⟩

/-- Numbers for the types of two loops that read one query. -/
def numbered (t : Text) : ComponentType :=
  if t = Text.ofString "Pos_Vel" then 0 else if t = Text.ofString "Pos" then 1 else 2

/-- One entity has the component of the first loop, and no component of the second. -/
def positioned : List (Request .numbers) :=
  [.world .newEntity, .world (.set 0 0 7)]

/-- The second loop goes over the query of the first and binds behind the end of an empty pool. -/
theorem slots_in_bounds_ambiguous :
    ∃ a, Method.analyse (some Method.ambiguous) {} = .ok a ∧
      (∃ n ∈ a.nodes, ⟨"Pos", "p"⟩ ∈ n.bindings ∧
        (Declared.ofNodes a.nodes).queries.map QueryDecl.name = [n.signature]) ∧
      ∃ q p, (started numbered a positioned []).queries = [q] ∧ 0 < q.count ∧
        (started numbered a positioned []).world.pools (numbered "Pos") = some p ∧
        q.slot p 0 = .error (.indexBeyond 0 0) := by
  refine ⟨_, rfl, ?_, ?_⟩
  · decide +kernel
  · exact ⟨_, _, rfl, by decide +kernel, rfl, rfl⟩

end Session

end SystemLoops
