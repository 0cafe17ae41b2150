import SystemLoops.Proofs.Recycling

/-!
Allocation of entities. The free numbers are the complement of the table of existing entities, so a number
is handed out to one holder at a time. Main statement: after every history, whatever was destroyed and how
often, the entities that are held are pairwise different and are those that exist, an entity that is
handed out next did not exist, and destroying one ends no other.
-/

namespace SystemLoops.World

variable {c : Components} {w : World c} {e f : Entity} {r : Request c}

/-! ### Who holds entities -/

/-- The entities that are held after a request: one that is handed out is held until it is destroyed. -/
def heldAfter (w : World c) (held : List Entity) : Request c → List Entity
  | .newEntity => w.newEntity.1 :: held
  | .destroy e => held.filter (· ≠ e)
  | .ensurePool _ | .set _ _ _ | .remove _ _ => held

def heldFrom (w : World c) (held : List Entity) : List (Request c) → List Entity
  | [] => held
  | r :: rest => heldFrom (w.after r) (w.heldAfter held r) rest

/-- The table of entities gets no shorter. -/
theorem alive_length_le_after (w : World c) (r : Request c) :
    w.alive.length ≤ (w.after r).alive.length := by
  cases r with
  | newEntity =>
    rw [after]
    rcases newEntity_cases w with ⟨e, rest, -, made⟩ | ⟨-, made⟩
    · rw [made]
      exact Nat.le_of_eq List.length_set.symm
    · rw [made, List.length_append]
      exact Nat.le_add_right _ _
  | destroy e =>
    rw [after, destroy]
    split
    · exact Nat.le_of_eq List.length_set.symm
    · exact Nat.le_refl _
  | ensurePool | set | remove => exact Nat.le_refl _

theorem alive_length_le_run (w : World c) (requests : List (Request c)) :
    w.alive.length ≤ (requests.foldl after w).alive.length := by
  induction requests generalizing w with
  | nil => exact Nat.le_refl _
  | cons r rest ih => exact Nat.le_trans (alive_length_le_after w r) (ih _)

/-! ### What every history keeps -/

theorem Counted.run (counted : w.Counted) (requests : List (Request c)) :
    (requests.foldl World.after w).Counted := by
  induction requests generalizing w with
  | nil => exact counted
  | cons r rest ih => exact ih (counted.after r)

/-- The entities that are held are those that exist, each held once. -/
structure Held (w : World c) (held : List Entity) : Prop where
  nodup : held.Nodup
  mem_iff : ∀ e, e ∈ held ↔ w.isAlive e = true

theorem Held.empty : Held (empty : World c) [] :=
  ⟨.nil, by simp [World.empty, isAlive]⟩

theorem Held.after {held : List Entity} (owned : Held w held) (counted : w.Counted)
    (fits : (w.after r).alive.length ≤ UInt32.size) : Held (w.after r) (w.heldAfter held r) := by
  cases r with
  | newEntity =>
    obtain ⟨dead, others⟩ := counted.newEntity_fresh fits
    have apart : w.newEntity.1 ∉ held := by
      intro again
      rw [(owned.mem_iff _).mp again] at dead
      cases dead
    refine ⟨List.nodup_cons.mpr ⟨apart, owned.nodup⟩, ?_⟩
    intro f
    rw [World.after, others, heldAfter, List.mem_cons, owned.mem_iff]
    by_cases same : f = w.newEntity.1
    · simp [same]
    · simp [same]
  | destroy e =>
    refine ⟨owned.nodup.filter _, ?_⟩
    intro f
    rw [World.after, isAlive_destroy, heldAfter, List.mem_filter, owned.mem_iff]
    by_cases same : f = e
    · simp [same]
    · simp [same]
  | ensurePool | set | remove => exact ⟨owned.nodup, owned.mem_iff⟩

theorem Held.run {held : List Entity} (owned : Held w held) (counted : w.Counted)
    (requests : List (Request c))
    (fits : (requests.foldl World.after w).alive.length ≤ UInt32.size) :
    Held (requests.foldl World.after w) (heldFrom w held requests) := by
  induction requests generalizing w held with
  | nil => exact owned
  | cons r rest ih =>
    have room := Nat.le_trans (alive_length_le_run (w.after r) rest) fits
    exact ih (owned.after counted room) (counted.after r) fits

/-- While numbers suffice, every place of the table that is not in use is free. -/
theorem Counted.mem_free_iff (counted : w.Counted) (fits : w.alive.length ≤ UInt32.size) {i : Nat} :
    i ∈ w.free.map UInt32.toNat ↔ w.alive[i]? = some false := by
  have marked : w.alive[i]? = some false ↔ i < w.alive.length ∧ w.alive.getD i false = false := by
    rw [List.getElem?_eq_some_iff, List.getD_eq_getElem?_getD]
    constructor
    · rintro ⟨inside, dead⟩
      simp [inside, dead]
    · rintro ⟨inside, dead⟩
      exact ⟨inside, by simpa [inside] using dead⟩
  rw [marked, List.mem_map]
  constructor
  · rintro ⟨e, free, rfl⟩
    exact (counted.mem_free e).mp free
  · rintro ⟨inside, dead⟩
    have number : (UInt32.ofNat i).toNat = i :=
      UInt32.toNat_ofNat_of_lt' (Nat.lt_of_lt_of_le inside fits)
    refine ⟨UInt32.ofNat i, (counted.mem_free _).mpr ?_, number⟩
    rw [isAlive, number]
    exact ⟨inside, dead⟩

/-- After a history that stays within the numbers of entities: the free numbers have no repetitions and
are those of the table that do not exist; the entities that are held are pairwise different and are
those that exist; an entity that is handed out did not exist before, exists then, and changes no other;
destroying an entity ends it and no other, and does nothing when it does not exist. -/
theorem allocation_exact (history : List (Request c))
    (fits : (run history).alive.length ≤ UInt32.size) :
    (run history).free.Nodup ∧
    (∀ i : Nat, i ∈ (run history).free.map UInt32.toNat ↔ (run history).alive[i]? = some false) ∧
    ((heldFrom empty [] history).Nodup ∧
      ∀ e, e ∈ heldFrom empty [] history ↔ (run history).isAlive e = true) ∧
    (∀ e w, (run history).newEntity = (e, w) → w.alive.length ≤ UInt32.size →
      (run history).isAlive e = false ∧ w.isAlive e = true ∧
        ∀ f, f ≠ e → w.isAlive f = (run history).isAlive f) ∧
    ∀ e, ((run history).isAlive e = false → (run history).destroy e = run history) ∧
      ((run history).destroy e).isAlive e = false ∧
        ∀ f, f ≠ e → ((run history).destroy e).isAlive f = (run history).isAlive f := by
  have counted : (run history).Counted := Counted.empty.run history
  have owned : Held (run history) (heldFrom empty [] history) :=
    Held.empty.run .empty history fits
  refine ⟨counted.nodup, fun _ => counted.mem_free_iff fits, ⟨owned.nodup, owned.mem_iff⟩, ?_, ?_⟩
  · intro e w made room
    have fresh := counted.newEntity_fresh (by rw [made]; exact room)
    rw [made] at fresh
    obtain ⟨dead, others⟩ := fresh
    exact ⟨dead, by rw [others, if_pos rfl], fun f other => by rw [others, if_neg other]⟩
  · intro e
    exact ⟨destroy_of_dead, by rw [isAlive_destroy, if_pos rfl],
      fun f other => by rw [isAlive_destroy, if_neg other]⟩

/-- One of three entities is destroyed twice, another once, and one that was never made. -/
def scattered : List (Request .numbers) :=
  [.newEntity, .newEntity, .newEntity, .destroy 1, .destroy 1, .destroy 7, .destroy 0]

/-- Both numbers are free, each once; the next entity takes one of them, and the third is untouched. -/
theorem allocation_exact_scattered :
    (run scattered).alive.length ≤ UInt32.size ∧ (run scattered).free = [0, 1] ∧
      heldFrom empty [] scattered = [2] ∧ ∃ w, (run scattered).newEntity = (0, w) ∧
        (run scattered).isAlive 0 = false ∧ w.isAlive 0 = true ∧ w.isAlive 2 = true ∧
          (run scattered).destroy 1 = run scattered := by
  have fits : (run scattered).alive.length ≤ UInt32.size := by decide
  obtain ⟨-, -, ⟨-, holds⟩, handed, destroyed⟩ := allocation_exact scattered fits
  obtain ⟨w, made, room⟩ : ∃ w, (run scattered).newEntity = (0, w) ∧ w.alive.length ≤ UInt32.size :=
    ⟨_, rfl, by decide⟩
  obtain ⟨dead, fresh, others⟩ := handed 0 w made room
  have third : (run scattered).isAlive 2 = true := (holds 2).mp (by decide)
  exact ⟨fits, rfl, by decide, w, made, dead, fresh, (others 2 (by decide)).trans third,
    (destroyed 1).1 rfl⟩

end SystemLoops.World
