import SystemLoops.Proofs.WorldRun

/-!
Recycled entities. The numbers that are free are exactly those of the entities that were destroyed and
not made again, and only entities that exist have components. Main statement: however a world came about,
as long as components were stored for entities that existed at that moment, an entity that is handed out
starts without components and with zeros in its slots, and a request about one entity shows to no other.
-/

namespace SystemLoops.World

variable {c : Components} {w : World c} {t : ComponentType} {e f : Entity} {r : Request c}

/-! ### Which entities exist -/

theorem isAlive_iff : w.isAlive e = true ↔ w.alive[e.toNat]? = some true := by
  rw [isAlive, List.getD_eq_getElem?_getD]
  cases w.alive[e.toNat]? <;> simp

theorem lt_of_isAlive (exist : w.isAlive e = true) : e.toNat < w.alive.length :=
  (List.getElem?_eq_some_iff.mp (isAlive_iff.mp exist)).1

theorem marked_eq {alive : List Bool} {mark : Bool} (inside : e.toNat < alive.length) :
    (alive.set e.toNat mark).getD f.toNat false =
      if f = e then mark else alive.getD f.toNat false := by
  rw [List.getD_eq_getElem?_getD, List.getD_eq_getElem?_getD]
  split
  · rename_i same
    rw [same, List.getElem?_set_self inside, Option.getD_some]
  · rename_i other
    have apart : e.toNat ≠ f.toNat := fun same => other (UInt32.toNat_inj.mp same.symm)
    rw [List.getElem?_set_ne apart]

/-- One more entity says nothing about those before it. -/
theorem added_eq {alive : List Bool} :
    (alive ++ [true]).getD f.toNat false =
      if f.toNat = alive.length then true else alive.getD f.toNat false := by
  rw [List.getD_eq_getElem?_getD, List.getD_eq_getElem?_getD, List.getElem?_append]
  split
  · rename_i inside
    rw [if_neg (Nat.ne_of_lt inside)]
  · rename_i beyond
    rw [List.getElem?_eq_none (l := alive) (Nat.le_of_not_lt beyond)]
    split
    · rename_i last
      simp [last]
    · rename_i far
      have behind : f.toNat - alive.length ≠ 0 := by omega
      simp [behind]

theorem newEntity_cases (w : World c) :
    (∃ e rest, w.free = e :: rest ∧
      w.newEntity = (e, { w with free := rest, alive := w.alive.set e.toNat true })) ∨
    w.free = [] ∧
      w.newEntity = (UInt32.ofNat w.alive.length, { w with alive := w.alive ++ [true] }) := by
  unfold newEntity
  split
  · rename_i e rest free
    exact .inl ⟨e, rest, free, rfl⟩
  · rename_i free
    exact .inr ⟨free, rfl⟩

theorem isAlive_destroy : (w.destroy e).isAlive f = if f = e then false else w.isAlive f := by
  cases exist : w.isAlive e with
  | true =>
    rw [destroy, if_pos exist]
    exact marked_eq (lt_of_isAlive exist)
  | false =>
    rw [destroy_of_dead exist]
    split
    · rename_i same
      rw [same, exist]
    · rfl

/-! ### Free numbers -/

/-- The free numbers are those that were handed out and whose entities do not exist, each once. -/
structure Counted (w : World c) : Prop where
  nodup : w.free.Nodup
  mem_free : ∀ e, e ∈ w.free ↔ e.toNat < w.alive.length ∧ w.isAlive e = false

namespace Counted

theorem empty : (empty : World c).Counted :=
  ⟨.nil, by simp [World.empty]⟩

/-- An entity that is handed out did not exist, and then it does. No other entity comes or goes. -/
theorem newEntity_fresh (counted : w.Counted) (fits : w.newEntity.2.alive.length ≤ UInt32.size) :
    w.isAlive w.newEntity.1 = false ∧
      ∀ f, w.newEntity.2.isAlive f = if f = w.newEntity.1 then true else w.isAlive f := by
  rcases newEntity_cases w with ⟨e, rest, free, made⟩ | ⟨free, made⟩
  · rw [made]
    have known : e ∈ w.free := free ▸ List.mem_cons_self
    obtain ⟨inside, dead⟩ := (counted.mem_free e).mp known
    exact ⟨dead, fun f => marked_eq inside⟩
  · rw [made] at fits ⊢
    have room : w.alive.length < UInt32.size := by
      rw [List.length_append] at fits
      exact fits
    have number : (UInt32.ofNat w.alive.length).toNat = w.alive.length :=
      UInt32.toNat_ofNat_of_lt' room
    refine ⟨by simp [isAlive, number], ?_⟩
    intro f
    have same : f = UInt32.ofNat w.alive.length ↔ f.toNat = w.alive.length := by
      rw [← UInt32.toNat_inj, number]
    simp only [same]
    exact added_eq

theorem newEntity (counted : w.Counted) : w.newEntity.2.Counted := by
  rcases newEntity_cases w with ⟨e, rest, free, made⟩ | ⟨free, made⟩
  · rw [made]
    have distinct : (e :: rest).Nodup := free ▸ counted.nodup
    have inside := ((counted.mem_free e).mp (free ▸ List.mem_cons_self)).1
    refine ⟨(List.nodup_cons.mp distinct).2, ?_⟩
    intro f
    have before := counted.mem_free f
    rw [free, List.mem_cons] at before
    simp only [isAlive, List.length_set, marked_eq inside] at before ⊢
    by_cases same : f = e
    · subst same
      simp [(List.nodup_cons.mp distinct).1]
    · simpa [same] using before
  · rw [made]
    -- the free numbers stay, whatever number the new entity gets
    refine ⟨counted.nodup, ?_⟩
    intro f
    have before := counted.mem_free f
    simp only [isAlive, List.length_append, added_eq] at before ⊢
    rw [before]
    constructor
    · rintro ⟨inside, dead⟩
      exact ⟨Nat.lt_succ_of_lt inside, by rw [if_neg (Nat.ne_of_lt inside), dead]⟩
    · rintro ⟨inside, dead⟩
      split at dead
      · cases dead
      · rename_i apart
        exact ⟨Nat.lt_of_le_of_ne (Nat.le_of_lt_succ inside) apart, dead⟩

theorem destroy (counted : w.Counted) : (w.destroy e).Counted := by
  cases exist : w.isAlive e with
  | false => rwa [destroy_of_dead exist]
  | true =>
    have inside := lt_of_isAlive exist
    have busy : e ∉ w.free := by
      intro free
      rw [((counted.mem_free e).mp free).2] at exist
      cases exist
    rw [World.destroy, if_pos exist]
    refine ⟨List.nodup_cons.mpr ⟨busy, counted.nodup⟩, ?_⟩
    intro f
    have before := counted.mem_free f
    simp only [isAlive, List.mem_cons, List.length_set, marked_eq inside] at before ⊢
    by_cases same : f = e
    · simp [same, inside]
    · simpa [same] using before

theorem after (counted : w.Counted) (r : Request c) : (w.after r).Counted := by
  cases r with
  | newEntity => exact counted.newEntity
  | destroy e => exact counted.destroy
  | ensurePool | set | remove => exact ⟨counted.nodup, counted.mem_free⟩

end Counted

/-! ### Who has components -/

/-- A request that keeps the rule: components are stored for entities that exist. -/
def Request.Proper (w : World c) : Request c → Prop
  | .set _ e _ => w.isAlive e = true
  | .newEntity | .destroy _ | .ensurePool _ | .remove _ _ => True

/-- A history in which every request keeps the rule at its moment. -/
def Careful : World c → List (Request c) → Prop
  | _, [] => True
  | w, r :: rest => r.Proper w ∧ Careful (w.after r) rest

/-- Only entities that exist have components. -/
structure Clean (w : World c) : Prop where
  tidy : w.Tidy
  counted : w.Counted
  held : ∀ e t, w.has e t = true → w.isAlive e = true

/-- An entity ends only by being destroyed. -/
theorem isAlive_after (counted : w.Counted) (exist : w.isAlive e = true) (kept : r ≠ .destroy e) :
    (w.after r).isAlive e = true := by
  cases r with
  | newEntity =>
    rw [after]
    rcases newEntity_cases w with ⟨f, rest, free, made⟩ | ⟨free, made⟩
    · have inside := ((counted.mem_free f).mp (free ▸ List.mem_cons_self)).1
      rw [made]
      refine (marked_eq inside).trans ?_
      split
      · rfl
      · exact exist
    · rw [made]
      refine added_eq.trans ?_
      split
      · rfl
      · exact exist
  | destroy d =>
    have other : e ≠ d := fun same => kept (same ▸ rfl)
    rw [after, isAlive_destroy, if_neg other, exist]
  | ensurePool | set | remove => exact exist

theorem has_destroy (exist : w.isAlive e = true) : (w.destroy e).has e t = false := by
  rw [has_eq, pool_destroy exist, Bool.eq_false_iff]
  intro present
  exact (Pool.has_remove.mp present).1 rfl

namespace Clean

theorem empty : (empty : World c).Clean :=
  ⟨.empty, .empty, by simp [World.empty, has]⟩

theorem after (clean : w.Clean) (proper : r.Proper w) : (w.after r).Clean := by
  refine ⟨clean.tidy.after r, clean.counted.after r, ?_⟩
  intro e t present
  rcases has_of_has_after clean.tidy.even present with before | ⟨value, rfl⟩
  · have exist := clean.held e t before
    by_cases ended : r = .destroy e
    · subst ended
      rw [World.after, has_destroy exist] at present
      cases present
    · exact isAlive_after clean.counted exist ended
  · exact proper

/-- An entity that does not exist has no components. -/
theorem has_of_dead (clean : w.Clean) (dead : w.isAlive e = false) : w.has e t = false := by
  rw [Bool.eq_false_iff]
  intro present
  rw [clean.held e t present] at dead
  cases dead

end Clean

theorem clean_run {history : List (Request c)} (careful : Careful empty history) :
    (run history).Clean := by
  -- from any clean world, since every request moves the start
  suffices kept : ∀ w : World c, w.Clean → Careful w history → (history.foldl after w).Clean by
    exact kept empty .empty careful
  clear careful
  induction history with
  | nil => exact fun w clean _ => clean
  | cons r rest ih => exact fun w clean careful => ih _ (clean.after careful.1) careful.2

/-- After a history in which components are stored for entities that exist: an entity handed out next, as
long as numbers suffice, has no component and zeros in its slots; no entity that does not exist has a
component; every slot without an entity holds the zero; and the next request leaves every component as it
is that it does not touch. -/
theorem recycled_clean {history : List (Request c)} (careful : Careful empty history) :
    (∀ e w, (run history).newEntity = (e, w) → w.alive.length ≤ UInt32.size →
      ∀ t, w.has e t = false ∧ ∀ value, (w.pool t).items[e.toNat]? = some value → value = c.zero t) ∧
    (∀ e t, (run history).isAlive e = false → (run history).has e t = false) ∧
    (∀ t p, (run history).pools t = some p → p.items.length = p.present.length ∧
      ∀ (i : Nat) value, p.items[i]? = some value → p.present[i]? ≠ some true → value = c.zero t) ∧
    ∀ r e t, ¬ r.Touches e t →
      ((run history).after r).has e t = (run history).has e t ∧
        (((run history).after r).pool t).get? e = ((run history).pool t).get? e := by
  have clean := clean_run careful
  refine ⟨?_, fun e t dead => clean.has_of_dead dead, ?_, ?_⟩
  · intro e w made fits t
    have fresh := clean.counted.newEntity_fresh (by rw [made]; exact fits)
    have kept := component_after_of_untouched (e := e) (t := t) (r := .newEntity) clean.tidy.even id
    rw [after, made] at kept
    rw [made] at fresh
    have absent : w.has e t = false := kept.1.trans (clean.has_of_dead fresh.1)
    refine ⟨absent, ?_⟩
    intro value found
    have tidy := clean.tidy.after .newEntity t
    rw [after, made] at tidy
    refine tidy.eq_zero found ?_
    intro marked
    rw [has_eq, Pool.has_iff.mpr marked] at absent
    cases absent
  · intro t p there
    have tidy := clean.tidy t
    rw [pool_of_pools there] at tidy
    exact ⟨tidy.even, fun i value found absent => tidy.eq_zero found absent⟩
  · exact fun r e t untouched => component_after_of_untouched clean.tidy.even untouched

/-- Two entities have a component of the first type; the first is destroyed before the second type has
a pool. -/
def reuse : List (Request .numbers) :=
  [.newEntity, .newEntity, .set 0 0 7, .set 0 1 8, .destroy 0, .set 1 1 9]

/-- The number of the first is handed out again, without what it had; destroying it once more leaves
the components of the second. -/
theorem recycled_clean_reuse :
    Careful empty reuse ∧ ∃ w, (run reuse).newEntity = (0, w) ∧ w.alive.length ≤ UInt32.size ∧
      (∀ t, w.has 0 t = false) ∧ (w.pool 0).items[0]? = some 0 ∧
      (((run reuse).after (.destroy 0)).pool 0).get? 1 = some 8 := by
  have careful : Careful empty reuse := ⟨trivial, trivial, rfl, rfl, trivial, rfl, trivial⟩
  obtain ⟨handed, -, -, untouched⟩ := recycled_clean careful
  obtain ⟨w, made, fits, slot⟩ : ∃ w, (run reuse).newEntity = (0, w) ∧ w.alive.length ≤ UInt32.size ∧
      (w.pool 0).items[0]?.isSome :=
    ⟨_, rfl, by decide, rfl⟩
  obtain ⟨value, found⟩ := Option.isSome_iff_exists.mp slot
  have zeroed : value = 0 := (handed 0 w made fits 0).2 value found
  refine ⟨careful, w, made, fits, fun t => (handed 0 w made fits t).1, ?_, ?_⟩
  · rw [found, zeroed]
  · have kept := (untouched (.destroy 0) 1 0 (by simp [Request.Touches])).2
    exact kept.trans rfl

end SystemLoops.World
