import SystemLoops.Proofs.PoolSlots
import SystemLoops.World

namespace SystemLoops

abbrev Components.numbers : Components where
  Value := fun _ => Nat
  zero := fun _ => 0

namespace World

/-- What a world is asked for. -/
inductive Request (c : Components) where
  | newEntity
  | destroy (e : Entity)
  | ensurePool (t : ComponentType)
  | set (t : ComponentType) (e : Entity) (value : c.Value t)
  | remove (t : ComponentType) (e : Entity)

variable {c : Components} {w : World c} {t u : ComponentType} {e f : Entity} {r : Request c}

def after (w : World c) : Request c → World c
  | .newEntity => w.newEntity.2
  | .destroy e => w.destroy e
  | .ensurePool t => w.ensurePool t
  | .set t e value => w.set t e value
  | .remove t e => w.remove t e

/-- The world that a history of requests leads to, from the empty one. -/
def run (history : List (Request c)) : World c :=
  history.foldl after empty

def Request.Touches : Request c → Entity → ComponentType → Prop
  | .destroy d, e, _ => d = e
  | .set u d _, e, t | .remove u d, e, t => u = t ∧ d = e
  | .newEntity, _, _ | .ensurePool _, _, _ => False

/-! ### Pools of a world -/

theorem has_eq : w.has e t = (w.pool t).has e := by
  unfold has pool
  cases w.pools t with
  | some p => rfl
  | none => simp [Pool.has, Pool.empty]

theorem pool_of_pools {p : Pool (c.Value t)} (found : w.pools t = some p) : w.pool t = p := by
  rw [pool, found, Option.getD_some]

@[simp]
theorem pools_withPool_self {p : Pool (c.Value t)} : (w.withPool t p).pools t = some p := by
  simp [withPool]

@[simp]
theorem pool_withPool_self {p : Pool (c.Value t)} : (w.withPool t p).pool t = p :=
  pool_of_pools pools_withPool_self

theorem pools_withPool_of_ne {p : Pool (c.Value t)} (other : t ≠ u) :
    (w.withPool t p).pools u = w.pools u := by
  simp [withPool, other]

theorem pool_withPool_of_ne {p : Pool (c.Value t)} (other : t ≠ u) :
    (w.withPool t p).pool u = w.pool u := by
  rw [pool, pool, pools_withPool_of_ne other]

theorem pools_newEntity : w.newEntity.2.pools = w.pools := by
  unfold newEntity
  split <;> rfl

theorem pools_destroy (exist : w.isAlive e = true) :
    (w.destroy e).pools t = (w.pools t).map fun p => p.remove (c.zero t) e := by
  rw [destroy, if_pos exist]

theorem pool_destroy (exist : w.isAlive e = true) :
    (w.destroy e).pool t = (w.pool t).remove (c.zero t) e := by
  rw [pool, pools_destroy exist, pool]
  cases w.pools t with
  | some p => rfl
  | none => rfl

theorem destroy_of_dead (dead : w.isAlive e = false) : w.destroy e = w := by
  simp [destroy, dead]

/-! ### What a request does to a pool -/

/-- The pool of a type after a request. It is kept when nothing in it is touched; an entity that does not
exist is not destroyed again. -/
inductive Change (w : World c) (t : ComponentType) : Request c → Pool (c.Value t) → Prop
  | kept {r : Request c}
      (idle : ∀ e, r.Touches e t → r = .destroy e ∧ w.isAlive e = false) : Change w t r (w.pool t)
  | stored (e : Entity) (value : c.Value t) :
      Change w t (.set t e value) ((w.pool t).set (c.zero t) e value)
  | cleared {r : Request c} (e : Entity) (touched : r.Touches e t)
      (only : ∀ f, r.Touches f t → f = e) : Change w t r ((w.pool t).remove (c.zero t) e)

theorem change_after (w : World c) (r : Request c) (t : ComponentType) :
    Change w t r ((w.after r).pool t) := by
  cases r with
  | newEntity =>
    rw [after, pool, pools_newEntity]
    exact .kept fun _ touched => touched.elim
  | destroy e =>
    cases exist : w.isAlive e with
    | true =>
      rw [after, pool_destroy exist]
      exact .cleared e rfl fun _ touched => touched.symm
    | false =>
      rw [after, destroy_of_dead exist]
      refine .kept ?_
      rintro _ rfl
      exact ⟨rfl, exist⟩
  | ensurePool u =>
    have same : (w.after (.ensurePool u)).pool t = w.pool t := by
      by_cases here : u = t
      · subst here
        exact pool_withPool_self
      · exact pool_withPool_of_ne here
    rw [same]
    exact .kept fun _ touched => touched.elim
  | set u e value =>
    by_cases here : u = t
    · subst here
      rw [after, set, pool_withPool_self]
      exact .stored e value
    · rw [after, set, pool_withPool_of_ne here]
      exact .kept fun _ touched => (here touched.1).elim
  | remove u e =>
    by_cases here : u = t
    · subst here
      rw [after, remove, pool_withPool_self]
      exact .cleared e ⟨rfl, rfl⟩ fun _ touched => touched.2.symm
    · rw [after, remove, pool_withPool_of_ne here]
      exact .kept fun _ touched => (here touched.1).elim

theorem pools_after_isSome (r : Request c) (there : (w.pools t).isSome) :
    ((w.after r).pools t).isSome := by
  have shared : ∀ {u : ComponentType} {p : Pool (c.Value u)}, ((w.withPool u p).pools t).isSome := by
    intro u p
    by_cases here : u = t
    · subst here
      rw [pools_withPool_self]
      rfl
    · rwa [pools_withPool_of_ne here]
  cases r with
  | newEntity => rwa [after, pools_newEntity]
  | destroy e =>
    cases exist : w.isAlive e with
    | true =>
      rw [after, pools_destroy exist]
      simpa using there
    | false => rwa [after, destroy_of_dead exist]
  | ensurePool | set | remove => exact shared

theorem length_le_after (w : World c) (r : Request c) (t : ComponentType) :
    (w.pool t).items.length ≤ ((w.after r).pool t).items.length := by
  have change := change_after w r t
  generalize (w.after r).pool t = p at change ⊢
  cases change with
  | kept => exact Nat.le_refl _
  | stored => exact Pool.length_le_set
  | cleared => exact Nat.le_of_eq Pool.length_remove.symm

/-! ### What all requests keep -/

/-- Every slot of a pool has a mark of presence. -/
def Even (w : World c) : Prop :=
  ∀ t, (w.pool t).Even

theorem Even.empty : (empty : World c).Even :=
  fun _ => Pool.Even.empty

theorem Even.after (even : w.Even) (r : Request c) : (w.after r).Even := by
  intro t
  have change := change_after w r t
  generalize (w.after r).pool t = p at change ⊢
  cases change with
  | kept => exact even t
  | stored => exact (even t).set
  | cleared => exact (even t).remove

def Tidy (w : World c) : Prop :=
  ∀ t, (w.pool t).Tidy (c.zero t)

namespace Tidy

theorem empty : (empty : World c).Tidy :=
  fun _ => Pool.Tidy.empty

theorem even (tidy : w.Tidy) : w.Even :=
  fun t => (tidy t).even

theorem after (tidy : w.Tidy) (r : Request c) : (w.after r).Tidy := by
  intro t
  have change := change_after w r t
  generalize (w.after r).pool t = p at change ⊢
  cases change with
  | kept => exact tidy t
  | stored => exact (tidy t).set
  | cleared => exact (tidy t).remove

end Tidy

theorem component_after_of_untouched (even : w.Even) (untouched : ¬ r.Touches e t) :
    (w.after r).has e t = w.has e t ∧ ((w.after r).pool t).get? e = (w.pool t).get? e := by
  rw [has_eq, has_eq]
  have change := change_after w r t
  generalize (w.after r).pool t = p at change ⊢
  cases change with
  | kept => exact ⟨rfl, rfl⟩
  | stored d value =>
    have other : e ≠ d := fun same => untouched ⟨rfl, same.symm⟩
    refine ⟨?_, Pool.get?_set_of_ne (even t) other⟩
    rw [Bool.eq_iff_iff, Pool.has_set (even t)]
    simp [other]
  | cleared d touched =>
    have other : e ≠ d := fun same => untouched (same ▸ touched)
    refine ⟨?_, Pool.get?_remove_of_ne other⟩
    rw [Bool.eq_iff_iff, Pool.has_remove]
    simp [other]

/-- A component comes only from storing it. -/
theorem has_of_has_after (even : w.Even) (present : (w.after r).has e t = true) :
    w.has e t = true ∨ ∃ value, r = .set t e value := by
  rw [has_eq] at present ⊢
  have change := change_after w r t
  generalize (w.after r).pool t = p at present change
  cases change with
  | kept => exact .inl present
  | stored d value =>
    rcases (Pool.has_set (even t)).mp present with rfl | earlier
    · exact .inr ⟨value, rfl⟩
    · exact .inl earlier
  | cleared d => exact .inl (Pool.has_remove.mp present).2

end World

end SystemLoops
