import Mathlib.Data.List.Basic
import SystemLoops.Generated.Assembly
import SystemLoops.Proofs.Recycling
import SystemLoops.World.Query

/-!
What queries find. A query is made over some component types and then told, call by call, which types to
leave out; each call evaluates it anew. Main statement: the last evaluation finds, in ascending order,
exactly the entities that exist, have every type asked for and none of those left out, so it does not
matter in which order, how often or in how many calls the types are given. A generated unit leaves out
one type per call.
-/

namespace SystemLoops

namespace World

variable {c : Components} {w : World c} {e : Entity}

theorem mem_entities_iff (fits : w.alive.length ≤ UInt32.size) :
    e ∈ w.entities ↔ w.isAlive e = true := by
  rw [entities, isAlive_iff, List.mem_map]
  constructor
  · rintro ⟨⟨mark, i⟩, listed, rfl⟩
    obtain ⟨found, marked⟩ := List.mem_filter.mp listed
    rw [List.mem_zipIdx_iff_getElem?] at found
    obtain ⟨inside, -⟩ := List.getElem?_eq_some_iff.mp found
    rw [UInt32.toNat_ofNat_of_lt' (Nat.lt_of_lt_of_le inside fits), found, marked]
  · intro found
    refine ⟨(true, e.toNat), List.mem_filter.mpr ⟨?_, rfl⟩, UInt32.ofNat_toNat⟩
    exact List.mem_zipIdx_iff_getElem?.mpr found

theorem entities_ascending (fits : w.alive.length ≤ UInt32.size) : w.entities.Pairwise (· < ·) := by
  have numbered : ∀ (marks : List Bool) (first : Nat), first + marks.length ≤ UInt32.size →
      ((marks.zipIdx first).map fun entry => UInt32.ofNat entry.2).Pairwise (· < ·) := by
    intro marks
    induction marks with
    | nil => simp
    | cons mark rest ih =>
      intro first room
      rw [List.length_cons] at room
      rw [List.zipIdx_cons, List.map_cons, List.pairwise_cons]
      refine ⟨?_, ih (first + 1) (by omega)⟩
      intro e later
      obtain ⟨⟨other, i⟩, listed, rfl⟩ := List.mem_map.mp later
      obtain ⟨behind, inside, -⟩ := List.mem_zipIdx listed
      rw [UInt32.lt_iff_toNat_lt, UInt32.toNat_ofNat_of_lt' (by omega),
        UInt32.toNat_ofNat_of_lt' (by omega)]
      omega
  exact (numbered w.alive 0 (by omega)).sublist (List.filter_sublist.map _)

end World

/-- How a query is made: the component types asked for, and those left out by each call in turn. -/
structure Construction (α : Type) where
  included : List α
  calls : List (List α)

namespace Construction

variable {c : Components}

def query (k : Construction ComponentType) (w : World c) : Query :=
  k.calls.foldl (fun q types => q.without w types) (Query.ofTypes w k.included)

/-- A construction with its types named otherwise. -/
def map {α β : Type} (f : α → β) (k : Construction α) : Construction β where
  included := k.included.map f
  calls := k.calls.map (List.map f)

/-- How generated units make the query of a declaration. -/
def ofDecl (q : QueryDecl) : Construction Text where
  included := q.types
  calls := q.exclusions.map fun t => [t]

/-- A construction in source: an argument for every type, and a further call for every call. -/
def text (runtime : Text) (k : Construction Text) : Text :=
  let typeOf := fun t : Text => runtime ++ ".TypeOf[" ++ t ++ "]()"
  let call := fun arguments : List Text => "(" ++ Text.join ", " arguments ++ ")"
  let filters : Text := k.calls.flatMap fun types => ".Without" ++ call (types.map typeOf)
  runtime ++ ".NewQuery" ++ call ("world" :: k.included.map typeOf) ++ filters

end Construction

namespace Query

variable {c : Components} {w v : World c} {q : Query} {e : Entity} {t : ComponentType}
  {types more : List ComponentType}

/-! ### One evaluation -/

theorem accepts_iff :
    q.accepts w e = true ↔ (∀ t ∈ q.included, w.has e t = true) ∧ ∀ t ∈ q.excluded, w.has e t = false := by
  simp [accepts]

/-- An evaluation finds the entities that exist, have what is asked for and nothing that is left out. -/
theorem mem_refresh_iff (fits : w.alive.length ≤ UInt32.size) :
    e ∈ (q.refresh w).entities ↔ w.isAlive e = true ∧ (∀ t ∈ q.included, w.has e t = true) ∧
      ∀ t ∈ q.excluded, w.has e t = false := by
  rw [refresh, List.mem_filter, World.mem_entities_iff fits, accepts_iff]

theorem refresh_ascending (fits : w.alive.length ≤ UInt32.size) :
    (q.refresh w).entities.Pairwise (· < ·) :=
  (World.entities_ascending fits).sublist List.filter_sublist

/-- What a query found before, in whatever world, does not matter when it is evaluated anew. -/
theorem without_refresh : (q.refresh v).without w types = q.without w types :=
  rfl

theorem without_without : (q.without v types).without w more = q.without w (types ++ more) := by
  show refresh { q with excluded := (q.excluded ++ types) ++ more } w = _
  rw [List.append_assoc]
  rfl

theorem without_sublist : (q.without w types).entities.Sublist (q.refresh w).entities := by
  refine List.monotone_filter_right w.entities ?_
  intro e found
  rw [accepts_iff] at found ⊢
  exact ⟨found.1, fun t left => found.2 t (List.mem_append_left _ left)⟩

end Query

namespace Construction

variable {c : Components} {w v : World c} {k other : Construction ComponentType}

/-! ### Many calls -/

theorem foldl_without (calls : List (List ComponentType)) (q : Query) :
    calls.foldl (fun q types => q.without w types) (q.refresh w) = q.without w calls.flatten := by
  induction calls generalizing q with
  | nil => simp [Query.without]
  | cons types rest ih =>
    rw [List.foldl_cons, Query.without_refresh, List.flatten_cons, ← Query.without_without (v := w)]
    exact ih _

theorem query_eq (k : Construction ComponentType) (w : World c) :
    k.query w = (Query.ofTypes w k.included).without w k.calls.flatten :=
  foldl_without k.calls { included := k.included }

/-- A query in the making remembers types, not worlds. -/
theorem refresh_query : (k.query v).refresh w = k.query w := by
  rw [query_eq, query_eq]
  rfl

/-- What a construction finds depends on the types asked for and on the types left out. -/
theorem entities_congr (asked : ∀ t, t ∈ other.included ↔ t ∈ k.included)
    (left : ∀ t, t ∈ other.calls.flatten ↔ t ∈ k.calls.flatten) :
    (other.query w).entities = (k.query w).entities := by
  rw [query_eq, query_eq]
  apply List.filter_congr
  intro e _
  rw [Bool.eq_iff_iff, Query.accepts_iff, Query.accepts_iff]
  simp [Query.ofTypes, Query.refresh, asked, left]

/-- The text that a generated unit makes a query with is that of its construction. -/
theorem queryInit_eq (runtime : Text) (q : QueryDecl) :
    Assembly.queryInit runtime q = (ofDecl q).text runtime := by
  have opening : Text.ofString ".NewQuery(world" =
      Text.ofString ".NewQuery" ++ (Text.ofString "(" ++ Text.ofString "world") := by decide
  have filter : Text.ofString ".Without(" = Text.ofString ".Without" ++ Text.ofString "(" := by decide
  simp only [Assembly.queryInit, text, ofDecl, Text.join_cons, List.flatMap_map, List.map_cons,
    List.map_nil, List.flatMap_nil, List.append_nil, List.append_assoc, opening, filter]

theorem flatten_calls_ofDecl (q : QueryDecl) (number : Text → ComponentType) :
    ((ofDecl q).map number).calls.flatten = q.exclusions.map number := by
  rw [map, ofDecl, List.map_map, ← List.flatMap_def, List.map_eq_flatMap]
  rfl

/-- Naming types by their numbers, a generated unit makes the query that leaves out all of them at once. -/
theorem query_ofDecl (q : QueryDecl) (number : Text → ComponentType) :
    ((ofDecl q).map number).query w =
      (Query.ofTypes w (q.types.map number)).without w (q.exclusions.map number) := by
  rw [query_eq, flatten_calls_ofDecl]
  rfl

end Construction

namespace World

variable {c : Components}

/-- In every world within the numbers of entities, however it came about, a query that was made over some
types with any calls finds, in ascending order, exactly the entities that exist, have every type asked
for and no type left out by one of the calls. It finds the same as every query that asks for the same
types and leaves out the same, whatever their order, their repetitions and their calls; one more call
never finds more; and evaluating a query again, also one that was made in another world, gives the query
made here. A generated unit writes a construction that amounts to one call with all the types left out. -/
theorem evaluation_exact (w : World c) (fits : w.alive.length ≤ UInt32.size)
    (k : Construction ComponentType) :
    ((k.query w).entities.Pairwise (· < ·) ∧
      ∀ e, e ∈ (k.query w).entities ↔ w.isAlive e = true ∧ (∀ t ∈ k.included, w.has e t = true) ∧
        ∀ call ∈ k.calls, ∀ t ∈ call, w.has e t = false) ∧
    (∀ other : Construction ComponentType, (∀ t, t ∈ other.included ↔ t ∈ k.included) →
      (∀ t, (∃ call ∈ other.calls, t ∈ call) ↔ ∃ call ∈ k.calls, t ∈ call) →
        (other.query w).entities = (k.query w).entities) ∧
    (∀ types, ((k.query w).without w types).entities.Sublist (k.query w).entities) ∧
    (∀ v : World c, (k.query v).refresh w = k.query w) ∧
    ∀ runtime (q : QueryDecl) number,
      Assembly.queryInit runtime q = (Construction.ofDecl q).text runtime ∧
        ((Construction.ofDecl q).map number).query w =
          (Query.ofTypes w (q.types.map number)).without w (q.exclusions.map number) := by
  refine ⟨⟨?_, ?_⟩, ?_, ?_, fun v => k.refresh_query, ?_⟩
  · rw [k.query_eq]
    exact Query.refresh_ascending fits
  · intro e
    rw [k.query_eq, Query.without, Query.mem_refresh_iff fits, Query.ofTypes, Query.refresh,
      List.nil_append, List.forall_mem_flatten]
  · intro other asked left
    exact Construction.entities_congr asked (by simpa using left)
  · intro types
    have fewer : ((k.query w).without w types).entities.Sublist ((k.query w).refresh w).entities :=
      Query.without_sublist
    rwa [k.refresh_query] at fewer
  · exact fun runtime q number =>
      ⟨Construction.queryInit_eq runtime q, Construction.query_ofDecl q number⟩

/-- Of three entities, the second has a type that will be left out, and the third is given a component
after it was destroyed. -/
def strayed : List (Request .numbers) :=
  [.newEntity, .newEntity, .newEntity, .set 0 0 7, .set 0 1 8, .set 1 1 9, .destroy 2, .set 0 2 4]

/-- Only the first is found, in three calls, one of them about a type that no entity has, or in one. -/
theorem evaluation_exact_strayed :
    (run strayed).alive.length ≤ UInt32.size ∧
      let k : Construction ComponentType := ⟨[0], [[1], [5], [1, 1]]⟩
      0 ∈ (k.query (run strayed)).entities ∧ 1 ∉ (k.query (run strayed)).entities ∧
        2 ∉ (k.query (run strayed)).entities ∧
        (Construction.query ⟨[0, 0], [[5, 1]]⟩ (run strayed)).entities =
          (k.query (run strayed)).entities := by
  have fits : (run strayed).alive.length ≤ UInt32.size := by decide
  obtain ⟨⟨-, found⟩, alike, -⟩ := evaluation_exact (run strayed) fits ⟨[0], [[1], [5], [1, 1]]⟩
  refine ⟨fits, (found 0).mpr ?_, ?_, ?_, alike _ (by simp) ?_⟩
  · simp only [List.forall_mem_cons, List.not_mem_nil, false_imp_iff, implies_true, and_true]
    decide
  · exact fun listed => absurd (((found 1).mp listed).2.2 [1] (by simp) 1 (by simp)) (by decide)
  · exact fun listed => absurd ((found 2).mp listed).1 (by decide)
  · intro t
    simp [or_comm]

end World

end SystemLoops
