import SystemLoops.World.Pool

namespace SystemLoops.Pool

variable {α : Type} {zero value : α} {p q : Pool α} {e f : Entity} {slots : Nat}

/-- Every slot has a mark of presence. -/
def Even (p : Pool α) : Prop :=
  p.items.length = p.present.length

/-- Every slot has a mark of presence, and a slot without an entity holds the zero. -/
structure Tidy (zero : α) (p : Pool α) : Prop where
  even : p.Even
  blank : ∀ i : Nat, p.present[i]? = some false → p.items[i]? = some zero

def reaching (zero : α) (p : Pool α) (e : Entity) : Pool α :=
  if e.toNat < p.items.length then p else p.grow zero (e.toNat + 1)

theorem set_eq : p.set zero e value =
    { items := (p.reaching zero e).items.set e.toNat value
      present := (p.reaching zero e).present.set e.toNat true } :=
  rfl

theorem has_iff : p.has e = true ↔ p.present[e.toNat]? = some true := by
  rw [has, List.getD_eq_getElem?_getD]
  cases p.present[e.toNat]? <;> simp

theorem lt_of_has (present : p.has e = true) : e.toNat < p.present.length :=
  (List.getElem?_eq_some_iff.mp (has_iff.mp present)).1

theorem has_congr (same : p.present[e.toNat]? = q.present[e.toNat]?) : p.has e = q.has e := by
  rw [Bool.eq_iff_iff, has_iff, has_iff, same]

/-! ### Room for a slot -/

theorem present_grow_of_lt {i : Nat} (inside : i < p.present.length) :
    (p.grow zero slots).present[i]? = p.present[i]? :=
  List.getElem?_append_left inside

theorem items_grow_of_lt {i : Nat} (inside : i < p.items.length) :
    (p.grow zero slots).items[i]? = p.items[i]? :=
  List.getElem?_append_left inside

theorem has_grow : (p.grow zero slots).has e = p.has e := by
  by_cases inside : e.toNat < p.present.length
  · exact has_congr (present_grow_of_lt inside)
  · rw [Bool.eq_iff_iff, has_iff, has_iff, grow, List.getElem?_append_right (Nat.le_of_not_lt inside),
      List.getElem?_replicate, List.getElem?_eq_none (Nat.le_of_not_lt inside)]
    simp

theorem has_reaching : (p.reaching zero e).has f = p.has f := by
  unfold reaching
  split
  · rfl
  · exact has_grow

theorem length_le_reaching : p.items.length ≤ (p.reaching zero e).items.length := by
  unfold reaching
  split
  · exact Nat.le_refl _
  · simp [grow]

theorem lt_length_reaching : e.toNat < (p.reaching zero e).items.length := by
  unfold reaching
  split
  · assumption
  · rw [grow, List.length_append, List.length_replicate]
    omega

theorem items_reaching_of_lt {i : Nat} (inside : i < p.items.length) :
    (p.reaching zero e).items[i]? = p.items[i]? := by
  unfold reaching
  split
  · rfl
  · exact items_grow_of_lt inside

namespace Even

theorem empty : (empty : Pool α).Even :=
  rfl

theorem lt_of_has (even : p.Even) (present : p.has e = true) : e.toNat < p.items.length :=
  even ▸ Pool.lt_of_has present

theorem grow (even : p.Even) : (p.grow zero slots).Even := by
  unfold Even at even ⊢
  simp [Pool.grow, even]

theorem reaching (even : p.Even) : (p.reaching zero e).Even := by
  unfold Pool.reaching
  split
  · exact even
  · exact even.grow

theorem lt_present_reaching (even : p.Even) : e.toNat < (p.reaching zero e).present.length :=
  even.reaching ▸ lt_length_reaching

theorem set (even : p.Even) : (p.set zero e value).Even := by
  rw [set_eq, Even, List.length_set, List.length_set]
  exact even.reaching

theorem remove (even : p.Even) : (p.remove zero e).Even := by
  unfold Pool.remove
  split
  · rw [Even, List.length_set, List.length_set]
    exact even
  · exact even

end Even

namespace Tidy

theorem empty : Tidy zero .empty :=
  ⟨.empty, by simp [Pool.empty]⟩

theorem eq_zero (tidy : p.Tidy zero) {i : Nat} (found : p.items[i]? = some value)
    (absent : p.present[i]? ≠ some true) : value = zero := by
  have inside : i < p.present.length := tidy.even ▸ (List.getElem?_eq_some_iff.mp found).1
  have marked : p.present[i]? = some false := by
    rw [List.getElem?_eq_getElem inside] at absent ⊢
    simpa using absent
  rw [tidy.blank i marked] at found
  exact (Option.some.inj found).symm

theorem grow (tidy : p.Tidy zero) : (p.grow zero slots).Tidy zero := by
  refine ⟨tidy.even.grow, ?_⟩
  intro i absent
  by_cases inside : i < p.items.length
  · rw [present_grow_of_lt (tidy.even ▸ inside)] at absent
    rw [items_grow_of_lt inside]
    exact tidy.blank i absent
  · have added : i < (p.grow zero slots).items.length :=
      tidy.even.grow ▸ (List.getElem?_eq_some_iff.mp absent).1
    rw [Pool.grow, List.length_append, List.length_replicate] at added
    rw [Pool.grow, List.getElem?_append_right (Nat.le_of_not_lt inside), List.getElem?_replicate,
      if_pos (by omega)]

theorem reaching (tidy : p.Tidy zero) : (p.reaching zero e).Tidy zero := by
  unfold Pool.reaching
  split
  · exact tidy
  · exact tidy.grow

theorem set (tidy : p.Tidy zero) : (p.set zero e value).Tidy zero := by
  refine ⟨tidy.even.set, ?_⟩
  intro i absent
  rw [set_eq] at absent ⊢
  by_cases here : e.toNat = i
  · rw [← here, List.getElem?_set_self tidy.even.lt_present_reaching] at absent
    cases absent
  · rw [List.getElem?_set_ne here] at absent ⊢
    exact tidy.reaching.blank i absent

theorem remove (tidy : p.Tidy zero) : (p.remove zero e).Tidy zero := by
  refine ⟨tidy.even.remove, ?_⟩
  unfold Pool.remove
  split
  · rename_i present
    intro i absent
    by_cases here : e.toNat = i
    · rw [← here, List.getElem?_set_self (tidy.even.lt_of_has present)]
    · rw [List.getElem?_set_ne here] at absent ⊢
      exact tidy.blank i absent
  · exact tidy.blank

end Tidy

/-! ### What an operation shows -/

theorem length_le_set : p.items.length ≤ (p.set zero e value).items.length := by
  rw [set_eq, List.length_set]
  exact length_le_reaching

theorem length_remove : (p.remove zero e).items.length = p.items.length := by
  unfold remove
  split
  · exact List.length_set
  · rfl

/-- After storing, the entity is present, and the others are as before. -/
theorem has_set (even : p.Even) :
    (p.set zero e value).has f = true ↔ f = e ∨ p.has f = true := by
  have unmoved : (p.reaching zero e).has f = p.has f := has_reaching
  rw [← unmoved, has_iff, has_iff, set_eq]
  by_cases here : f = e
  · subst here
    simp [List.getElem?_set_self even.lt_present_reaching]
  · have apart : e.toNat ≠ f.toNat := fun same => here (UInt32.toNat_inj.mp same.symm)
    rw [List.getElem?_set_ne apart]
    simp [here]

/-- After clearing, the entity is absent, and the others are as before. -/
theorem has_remove : (p.remove zero e).has f = true ↔ f ≠ e ∧ p.has f = true := by
  unfold remove
  split
  · rename_i present
    rw [has_iff, has_iff]
    by_cases here : f = e
    · subst here
      simp [List.getElem?_set_self (lt_of_has present)]
    · have apart : e.toNat ≠ f.toNat := fun same => here (UInt32.toNat_inj.mp same.symm)
      rw [List.getElem?_set_ne apart]
      simp [here]
  · rename_i absent
    constructor
    · intro there
      exact ⟨fun same => absent (same ▸ there), there⟩
    · exact And.right

theorem get?_congr (marks : p.has f = q.has f)
    (same : p.has f = true → p.items[f.toNat]? = q.items[f.toNat]?) : p.get? f = q.get? f := by
  unfold get?
  rw [← marks]
  split
  · rename_i present
    exact same present
  · rfl

/-- What is stored for one entity is not seen by another. -/
theorem get?_set_of_ne (even : p.Even) (other : f ≠ e) :
    (p.set zero e value).get? f = p.get? f := by
  have apart : e.toNat ≠ f.toNat := fun same => other (UInt32.toNat_inj.mp same.symm)
  have marks : (p.set zero e value).has f = p.has f := by
    rw [Bool.eq_iff_iff, has_set even]
    simp [other]
  refine get?_congr marks ?_
  intro present
  rw [marks] at present
  rw [set_eq, List.getElem?_set_ne apart, items_reaching_of_lt (even.lt_of_has present)]

/-- What is cleared for one entity is not missed by another. -/
theorem get?_remove_of_ne (other : f ≠ e) : (p.remove zero e).get? f = p.get? f := by
  have apart : e.toNat ≠ f.toNat := fun same => other (UInt32.toNat_inj.mp same.symm)
  refine get?_congr ?_ ?_
  · rw [Bool.eq_iff_iff, has_remove]
    simp [other]
  · intro _
    unfold remove
    split
    · exact List.getElem?_set_ne apart
    · rfl

end SystemLoops.Pool
