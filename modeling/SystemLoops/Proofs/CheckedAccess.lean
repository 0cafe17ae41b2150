import SystemLoops.Fault

namespace SystemLoops.Checked

variable {α : Type u} {xs : List α} {x : α}

def read (xs : List α) (i : Int) : Except Fault α :=
  if i < 0 then .error (.refused ("runtime error: index out of range [" ++ Text.ofInt i ++ "]"))
  else match xs[i.toNat]? with
    | some x => .ok x
    | none => .error (.indexBeyond i.toNat xs.length)

def write (xs : List α) (i : Nat) (x : α) : Except Fault (List α) :=
  if i < xs.length then .ok (xs.set i x) else .error (.indexBeyond i xs.length)

def rewriteAt (change : Nat → α → α) (xs : List α) (i : Nat) : Except Fault (List α) :=
  match read xs i with
  | .error f => .error f
  | .ok x => write xs i (change i x)

/-- Change a list in place, one position after the other. -/
def rewrite (change : Nat → α → α) (xs : List α) : Except Fault (List α) :=
  (List.range xs.length).foldlM (fun (now : List α) (i : Nat) => rewriteAt change now i) xs

theorem read_of_known {i : Nat} (known : xs[i]? = some x) : read xs i = .ok x := by
  rw [read, if_neg (Int.not_lt.mpr (Int.natCast_nonneg i)), Int.toNat_natCast, known]

theorem rewriteAt_append (change : Nat → α → α) {i : Nat} {before : List α} (passed : before.length = i)
    (x : α) (rest : List α) :
    rewriteAt change (before ++ x :: rest) i = .ok (before ++ change i x :: rest) := by
  subst passed
  have known : (before ++ x :: rest)[before.length]? = some x := by
    rw [List.getElem?_append_right (Nat.le_refl _), Nat.sub_self, List.getElem?_cons_zero]
  rw [rewriteAt, read_of_known known]
  dsimp only
  rw [write, if_pos (List.getElem?_eq_some_iff.mp known).1, List.set_append_right _ _ (Nat.le_refl _),
    Nat.sub_self, List.set_cons_zero]

/-- The positions passed are changed, and the others are as they were. -/
theorem rewrite_rounds (change : Nat → α → α) {k : Nat} (within : k ≤ xs.length) :
    (List.range k).foldlM (fun (now : List α) (i : Nat) => rewriteAt change now i) xs =
      .ok ((xs.take k).mapIdx change ++ xs.drop k) := by
  induction k with
  | zero => rfl
  | succ k ih =>
    have here : k < xs.length := within
    have lengthTake : (xs.take k).length = k := List.length_take_of_le (Nat.le_of_lt here)
    have passed : ((xs.take k).mapIdx change).length = k := List.length_mapIdx.trans lengthTake
    rw [List.range_succ, List.foldlM_append, ih (Nat.le_of_lt here), List.drop_eq_getElem_cons here]
    simp only [bind, Except.bind, List.foldlM_cons, List.foldlM_nil, rewriteAt_append change passed]
    rw [List.take_succ_eq_append_getElem here, List.mapIdx_append, List.mapIdx_singleton,
      List.append_assoc, lengthTake, Nat.zero_add]
    rfl

/-- A pass over the positions of a list stays inside of it. -/
theorem rewrite_eq (change : Nat → α → α) (xs : List α) : rewrite change xs = .ok (xs.mapIdx change) := by
  rw [rewrite, rewrite_rounds change (Nat.le_refl _), List.take_length, List.drop_length, List.append_nil]

end SystemLoops.Checked
