import SystemLoops.Document

namespace SystemLoops

theorem Text.ofString_injective : Function.Injective Text.ofString := by
  intro s t same
  have bytes : s.toUTF8.data = t.toUTF8.data := Array.toList_inj.mp same
  exact String.toByteArray_inj.mp (ByteArray.ext bytes)

namespace Document

open Format

variable {α β : Type} {known : List String} {store : String → Reader α} {name : String}
  {fields : List (Text × Json)} {read : Reader α} {old new : α} {v : Json} {vs : List Json}

/-! ### Names -/

theorem fieldName_of_mem (member : name ∈ known) :
    fieldName? known (Text.ofString name) = some name := by
  have found : known.find? (fun k => Text.ofString k == Text.ofString name) = some name := by
    induction known with
    | nil => contradiction
    | cons k rest ih =>
      by_cases same : k = name
      · rw [same, List.find?_cons_of_pos (by simp)]
      · have apart : Text.ofString k ≠ Text.ofString name := fun bytes =>
          same (Text.ofString_injective bytes)
        rw [List.find?_cons_of_neg (by simpa using apart)]
        exact ih ((List.mem_cons.mp member).resolve_left (Ne.symm same))
  rw [fieldName?, found, Option.some_or]

/-- Every field has one of the known names, spelled as it is known. -/
def Named (known : List String) (fields : List (Text × Json)) : Prop :=
  ∀ f ∈ fields, ∃ name ∈ known, f.1 = Text.ofString name

/-- The values given to a name, in order. -/
def valuesOf (name : String) (fields : List (Text × Json)) : List Json :=
  (fields.filter fun f => f.1 == Text.ofString name).map Prod.snd

theorem mem_of_mem_valuesOf (member : v ∈ valuesOf name fields) : ∃ f ∈ fields, f.2 = v := by
  obtain ⟨f, kept, rfl⟩ := List.mem_map.mp member
  exact ⟨f, (List.mem_filter.mp kept).1, rfl⟩

theorem field_eq_getLast (fields : List (Text × Json)) (name : String) :
    Schema.field? fields name = (valuesOf name fields).getLast? := by
  rw [Schema.field?, valuesOf, List.getLast?_map, List.getLast?_eq_head?_reverse, ← List.filter_reverse,
    List.head?_filter]

theorem named_of_hasFields {required : List String}
    (has : Schema.hasFields fields known required = true) : Named known fields := by
  rw [Schema.hasFields, Bool.and_eq_true, List.all_eq_true] at has
  intro f member
  obtain ⟨k, present, same⟩ := List.any_eq_true.mp (has.1 f member)
  exact ⟨k, present, (beq_iff_eq.mp same).symm⟩

theorem isSome_of_hasFields {required : List String}
    (has : Schema.hasFields fields known required = true) (member : name ∈ required) :
    ∃ v, Schema.field? fields name = some v := by
  rw [Schema.hasFields, Bool.and_eq_true, List.all_eq_true, List.all_eq_true] at has
  exact Option.isSome_iff_exists.mp (has.2 name member)

theorem optional_eq_true {check : Json → Bool} :
    Schema.optional fields name check = true ↔
      ∀ v, Schema.field? fields name = some v → check v = true := by
  rw [Schema.optional]
  cases Schema.field? fields name <;> simp

/-! ### Written fields -/

theorem forall_mem_field {P : Text × Json → Prop} (holds : P (Text.ofString name, v)) :
    ∀ f ∈ field name v, P f :=
  List.forall_mem_singleton.mpr holds

/-- Nothing is asked of a field that is left out. -/
theorem forall_mem_unless {P : Text × Json → Prop} {skip : Prop} [Decidable skip]
    (holds : ¬ skip → P (Text.ofString name, v)) :
    ∀ f ∈ (if skip then [] else field name v), P f := by
  split
  · exact List.forall_mem_nil P
  · rename_i written
    exact forall_mem_field (holds written)

/-! ### Values read one over the other -/

/-- Values are read one over the other, each of the right type. -/
inductive Reads (read : Reader α) : (old : α) → List Json → (new : α) → Prop where
  | nothing (x : α) : Reads read x [] x
  | next {old middle new : α} {v : Json} {vs : List Json} (first : read old v = ⟨middle, false⟩)
      (rest : Reads read middle vs new) : Reads read old (v :: vs) new

theorem Reads.last (reads : Reads read old vs new) (last : vs.getLast? = some v) :
    ∃ place, read place v = ⟨new, false⟩ := by
  induction reads with
  | nothing => contradiction
  | @next old middle new w vs first rest ih =>
    cases rest with
    | nothing =>
      rw [List.getLast?_singleton, Option.some.injEq] at last
      exact ⟨old, last ▸ first⟩
    | next => exact ih (by simpa using last)

/-- The value is the old one when the name is not given, and is read from the last one otherwise. -/
theorem Reads.of_field (reads : Reads read old (valuesOf name fields) new) :
    (Schema.field? fields name = none ∧ new = old) ∨
      ∃ v place, Schema.field? fields name = some v ∧ read place v = ⟨new, false⟩ := by
  rw [field_eq_getLast]
  cases last : (valuesOf name fields).getLast? with
  | none =>
    rw [List.getLast?_eq_none_iff.mp last] at reads
    cases reads with
    | nothing => exact .inl ⟨rfl, rfl⟩
  | some v =>
    obtain ⟨place, done⟩ := reads.last last
    exact .inr ⟨v, place, rfl, done⟩

theorem Reads.of_single (reads : Reads read old (valuesOf name fields) new)
    (single : (valuesOf name fields).length ≤ 1) :
    new = old ∨ ∃ v, Schema.field? fields name = some v ∧ read old v = ⟨new, false⟩ := by
  rw [field_eq_getLast]
  generalize valuesOf name fields = values at reads single ⊢
  cases reads with
  | nothing => exact .inl rfl
  | @next _ middle _ v vs first rest =>
    obtain rfl : vs = [] := by simpa using single
    cases rest with
    | nothing => exact .inr ⟨v, rfl, first⟩

theorem Reads.keeps {good : α → Prop} (reads : Reads read old vs new)
    (keeps : ∀ v ∈ vs, ∀ old new, good old → read old v = ⟨new, false⟩ → good new)
    (start : good old) : good new := by
  induction reads with
  | nothing => exact start
  | next first rest ih =>
    obtain ⟨now, later⟩ := List.forall_mem_cons.mp keeps
    exact ih later (now _ _ start first)

/-! ### Fields -/

@[simp]
theorem Stored.value_map (f : α → β) (s : Stored α) : (s.map f).value = f s.value := rfl

def storeField (known : List String) (store : String → Reader α) (s : Stored α) (f : Text × Json) :
    Stored α :=
  match fieldName? known f.1 with
  | none => s
  | some k => ⟨(store k s.value f.2).value, s.mismatch || (store k s.value f.2).mismatch⟩

theorem readFields_object (known : List String) (store : String → Reader α) (old : α)
    (fields : List (Text × Json)) :
    readFields known store old (.object fields) =
      fields.foldl (storeField known store) ⟨old, false⟩ := rfl

theorem storeField_of_mem (member : name ∈ known) (s : Stored α) (v : Json) :
    storeField known store s (Text.ofString name, v) =
      ⟨(store name s.value v).value, s.mismatch || (store name s.value v).mismatch⟩ := by
  rw [storeField, fieldName_of_mem member]

theorem mismatch_foldl (known : List String) (store : String → Reader α)
    (fields : List (Text × Json)) (old : α) :
    (fields.foldl (storeField known store) ⟨old, true⟩).mismatch = true := by
  induction fields generalizing old with
  | nil => rfl
  | cons f rest ih =>
    rw [List.foldl_cons, storeField]
    split
    · exact ih old
    · exact ih _

/-- Fields are read without a mismatch when the first one is and the others are. -/
theorem foldl_cons_eq {f : Text × Json} {rest : List (Text × Json)} :
    (f :: rest).foldl (storeField known store) ⟨old, false⟩ = ⟨new, false⟩ ↔
      ∃ middle, storeField known store ⟨old, false⟩ f = ⟨middle, false⟩ ∧
        rest.foldl (storeField known store) ⟨middle, false⟩ = ⟨new, false⟩ := by
  rw [List.foldl_cons]
  obtain ⟨middle, mismatch⟩ := storeField known store ⟨old, false⟩ f
  cases mismatch with
  | false =>
    constructor
    · exact fun done => ⟨middle, rfl, done⟩
    · rintro ⟨other, same, done⟩
      rw [same]
      exact done
  | true =>
    have told := mismatch_foldl known store rest middle
    constructor
    · intro done
      rw [done] at told
      contradiction
    · rintro ⟨other, same, -⟩
      exact absurd (congrArg Stored.mismatch same) (by simp)

theorem reads_part (get : α → β) {part : Reader β}
    (own : ∀ old v, (store name old v).map get = part (get old) v)
    (other : ∀ k ∈ known, k ≠ name → ∀ old v, get (store k old v).value = get old)
    (named : Named known fields)
    (done : readFields known store old (.object fields) = ⟨new, false⟩) :
    Reads part (get old) (valuesOf name fields) (get new) := by
  rw [readFields_object] at done
  induction fields generalizing old with
  | nil =>
    obtain rfl : old = new := congrArg Stored.value done
    exact .nothing (get old)
  | cons f rest ih =>
    obtain ⟨⟨k, member, spelled⟩, others⟩ := List.forall_mem_cons.mp named
    obtain ⟨key, v⟩ := f
    subst spelled
    obtain ⟨middle, first, later⟩ := foldl_cons_eq.mp done
    rw [storeField_of_mem member, Bool.false_or] at first
    have after := ih others later
    by_cases same : k = name
    · subst same
      have values : valuesOf k ((Text.ofString k, v) :: rest) = v :: valuesOf k rest := by
        simp [valuesOf]
      rw [values]
      refine .next ?_ after
      rw [← own]
      exact congrArg (Stored.map get) first
    · have values : valuesOf name ((Text.ofString k, v) :: rest) = valuesOf name rest := by
        have apart : Text.ofString k ≠ Text.ofString name := fun bytes =>
          same (Text.ofString_injective bytes)
        simp [valuesOf, apart]
      have kept := other k member same old v
      rw [congrArg Stored.value first] at kept
      rw [values, ← kept]
      exact after

theorem mem_of_fieldName {k : String} {key : Text} (found : fieldName? known key = some k) :
    k ∈ known := by
  rw [fieldName?, Option.or_eq_some_iff] at found
  rcases found with exact | ⟨-, folded⟩
  · exact List.mem_of_find?_eq_some exact
  · exact List.mem_of_find?_eq_some folded

theorem readFields_keeps {good : α → Prop}
    (keeps : ∀ k ∈ known, ∀ f ∈ fields, ∀ old new, good old → store k old f.2 = ⟨new, false⟩ → good new)
    (start : good old) (done : readFields known store old (.object fields) = ⟨new, false⟩) :
    good new := by
  rw [readFields_object] at done
  induction fields generalizing old with
  | nil =>
    obtain rfl : old = new := congrArg Stored.value done
    exact start
  | cons f rest ih =>
    obtain ⟨middle, first, done⟩ := foldl_cons_eq.mp done
    refine ih (fun k known g member => keeps k known g (List.mem_cons_of_mem f member)) ?_ done
    rw [storeField] at first
    split at first
    · obtain rfl : old = middle := congrArg Stored.value first
      exact start
    · rename_i k found
      exact keeps k (mem_of_fieldName found) f List.mem_cons_self old middle start first

/-! ### Lists -/

/-- The items of a list and the places behind them. -/
def Slots.held (s : Slots α) : List α :=
  s.items.getD [] ++ s.behind

/-- Each item is read from one of the values, over a new place or one that was there. -/
theorem readItems_origin {fresh : α} {places xs behind : List α}
    (done : readItems read fresh places vs = (xs, behind, false)) :
    (∀ x ∈ xs, ∃ v ∈ vs, ∃ place ∈ fresh :: places, read place v = ⟨x, false⟩) ∧
      ∀ x ∈ behind, x ∈ places := by
  induction vs generalizing places xs with
  | nil =>
    simp only [readItems, Prod.mk.injEq] at done
    obtain ⟨rfl, rfl, -⟩ := done
    exact ⟨nofun, fun x member => member⟩
  | cons v rest ih =>
    -- the place that the first value is read over, and those that are left
    obtain ⟨place, left, chosen, fewer, split⟩ : ∃ place left, place ∈ fresh :: places ∧
        (∀ x ∈ left, x ∈ places) ∧ readItems read fresh places (v :: rest) =
          ((read place v).value :: (readItems read fresh left rest).1,
            (readItems read fresh left rest).2.1,
            (read place v).mismatch || (readItems read fresh left rest).2.2) := by
      cases places with
      | nil => exact ⟨fresh, [], by simp, nofun, rfl⟩
      | cons place places => exact ⟨place, places, by simp, by simp_all, rfl⟩
    rw [split, Prod.mk.injEq, Prod.mk.injEq, Bool.or_eq_false_iff] at done
    obtain ⟨rfl, rfl, fine, others⟩ := done
    obtain ⟨later, kept⟩ := @ih left _ (by rw [← others])
    refine ⟨List.forall_mem_cons.mpr ⟨?_, fun x member => ?_⟩, fun x member => fewer x (kept x member)⟩
    · exact ⟨v, List.mem_cons_self, place, chosen, by rw [← fine]⟩
    · obtain ⟨w, source, place, held, same⟩ := later x member
      refine ⟨w, List.mem_cons_of_mem v source, place, ?_, same⟩
      rcases List.mem_cons.mp held with rfl | held
      · exact List.mem_cons_self
      · exact List.mem_cons_of_mem fresh (fewer place held)

theorem readSlots_array {fresh : α} {old new : Slots α}
    (done : readSlots read fresh old (.array vs) = ⟨new, false⟩) :
    ∃ xs, new.items = some xs ∧
      (∀ x ∈ xs, ∃ v ∈ vs, ∃ place ∈ fresh :: old.held, read place v = ⟨x, false⟩) ∧
      ∀ x ∈ new.behind, x ∈ old.held := by
  cases vs with
  | nil =>
    obtain rfl : ⟨some [], []⟩ = new := congrArg Stored.value done
    exact ⟨[], rfl, nofun, nofun⟩
  | cons v rest =>
    obtain rfl := congrArg Stored.value done
    have bad := congrArg Stored.mismatch done
    exact ⟨_, rfl, readItems_origin (Prod.ext rfl (Prod.ext rfl bad))⟩

theorem readSlots_keeps {good : α → Prop} {fresh : α} {old new : Slots α}
    (keeps : ∀ vs, v = .array vs → ∀ w ∈ vs, ∀ old new, good old → read old w = ⟨new, false⟩ → good new)
    (start : good fresh) (before : ∀ x ∈ old.held, good x)
    (done : readSlots read fresh old v = ⟨new, false⟩) : ∀ x ∈ new.held, good x := by
  cases v with
  | array vs =>
    obtain ⟨xs, items, origin, kept⟩ := readSlots_array done
    intro x member
    rw [Slots.held, items, Option.getD_some, List.mem_append] at member
    rcases member with read_now | left
    · obtain ⟨w, source, place, held, same⟩ := origin x read_now
      refine keeps vs rfl w source place x ?_ same
      rcases List.mem_cons.mp held with rfl | held
      · exact start
      · exact before place held
    · exact before x (kept x left)
  | null =>
    obtain rfl : {} = new := congrArg Stored.value done
    exact nofun
  | bool | number | string | object => exact absurd (congrArg Stored.mismatch done) (by simp [readSlots])

/-! ### Statements and methods -/

theorem Stored.finish_eq_ok {s : Stored α} {x : α} : s.finish = .ok x ↔ s = ⟨x, false⟩ := by
  obtain ⟨value, mismatch⟩ := s
  cases mismatch <;> simp [Stored.finish]

theorem map_eq_ok {ε : Type} {result : Except ε α} {f : α → β} {y : β} :
    result.map f = .ok y ↔ ∃ x, result = .ok x ∧ f x = y := by
  cases result <;> simp [Except.map]

theorem cons_eq_map_ok {ε : Type} {x : α} {xs : List α} {tail : List (Except ε α)} :
    (∃ others, tail = others.map .ok ∧ x :: others = xs) ↔ .ok x :: tail = xs.map .ok := by
  constructor
  · rintro ⟨others, rfl, rfl⟩
    rfl
  · intro same
    cases xs with
    | nil => contradiction
    | cons y ys =>
      obtain ⟨head, rest⟩ := List.cons.inj same
      exact ⟨ys, rest, by rw [Except.ok.inj head]⟩

theorem readStmtList_eq_ok {readOne : Json → Except DecodeError Stmt} {number : Nat}
    {sts : List Stmt} : readStmtList readOne number vs = .ok sts ↔ vs.map readOne = sts.map .ok := by
  induction vs generalizing number sts with
  | nil => cases sts <;> simp [readStmtList]
  | cons v rest ih =>
    rw [readStmtList, List.map_cons]
    cases first : readOne v with
    | error e => cases sts <;> simp
    | ok st =>
      simp only [map_eq_ok, ih, cons_eq_map_ok]

theorem readMethods_eq_ok {ms : List Method} :
    readMethods vs = .ok ms ↔ vs.map readMethod = ms.map .ok := by
  induction vs generalizing ms with
  | nil => cases ms <;> simp [readMethods]
  | cons v rest ih =>
    rw [readMethods, List.map_cons]
    cases first : readMethod v with
    | error e => cases ms <;> simp
    | ok m =>
      simp only [map_eq_ok, ih, cons_eq_map_ok]

/-- The function literal of a description whose statements have at most `depth` levels. -/
def readLambdaWithin (depth : Nat) (v : Json) : Except DecodeError Lambda :=
  match (readLambdaSlots {} v).finish with
  | .error e => .error e
  | .ok l =>
    match readStmtList (readStmtWithin depth) 0 l.body with
    | .error e => .error (.inside "lambda body" e)
    | .ok body => .ok { params := l.params.items, body, hasBody := l.hasBody }

theorem readLambdaWithin_eq_ok {depth : Nat} {l : Lambda} :
    readLambdaWithin depth v = .ok l ↔ ∃ s, readLambdaSlots {} v = ⟨s, false⟩ ∧
      s.body.map (readStmtWithin depth) = l.body.map .ok ∧ l.params = s.params.items ∧
      l.hasBody = s.hasBody := by
  rw [readLambdaWithin]
  constructor
  · intro done
    split at done
    · contradiction
    · rename_i s finished
      split at done
      · contradiction
      · rename_i body statements
        obtain rfl := Except.ok.inj done
        exact ⟨s, Stored.finish_eq_ok.mp finished, readStmtList_eq_ok.mp statements, rfl, rfl⟩
  · rintro ⟨s, finished, statements, params, hasBody⟩
    rw [Stored.finish_eq_ok.mpr finished]
    simp only [readStmtList_eq_ok.mpr statements, ← params, ← hasBody]

/-- Read a function literal as a part of a statement. -/
def readLambdaPart (readLambda : Json → Except DecodeError Lambda) : Reader (Option Lambda)
  | _, .null => ⟨none, false⟩
  | old, v =>
    match readLambda v with
    | .ok l => ⟨some l, false⟩
    | .error _ => ⟨old, true⟩

/-- Read one field of a statement; an error counts as a mismatch. -/
def storeStmtPart (readLambda : Json → Except DecodeError Lambda) (name : String) : Reader StmtSlots :=
  fun old v =>
    match storeStmtField readLambda name old v with
    | .ok next => next
    | .error _ => ⟨old, true⟩

section

variable (readLambda : Json → Except DecodeError Lambda) (old : StmtSlots) (v : Json)

@[simp]
theorem storeStmtPart_kind : storeStmtPart readLambda "kind" old v =
    (readText old.kind v).map fun kind => { old with kind } := rfl

@[simp]
theorem storeStmtPart_src : storeStmtPart readLambda "src" old v =
    (readText old.source v).map fun source => { old with source } := rfl

@[simp]
theorem storeStmtPart_pos : storeStmtPart readLambda "pos" old v =
    (readPosition old.position v).map fun position => { old with position } := rfl

@[simp]
theorem storeStmtPart_chain : storeStmtPart readLambda "chain" old v =
    (readSlots readMember {} old.chain v).map fun chain => { old with chain } := rfl

@[simp]
theorem storeStmtPart_lambda : storeStmtPart readLambda "lambda" old v =
    (readLambdaPart readLambda old.lambda v).map fun lambda => { old with lambda } := by
  by_cases absent : v = .null
  · subst absent
    rfl
  · have opened : storeStmtField readLambda "lambda" old v =
        (readLambda v).map fun l => ⟨{ old with lambda := some l }, false⟩ := by
      cases v with
      | null => contradiction
      | _ => rfl
    have part : readLambdaPart readLambda old.lambda v =
        match readLambda v with
        | .ok l => ⟨some l, false⟩
        | .error _ => ⟨old.lambda, true⟩ := by
      cases v with
      | null => contradiction
      | _ => rfl
    rw [storeStmtPart, opened, part]
    cases readLambda v <;> rfl

end

def readStmtSlots (readLambda : Json → Except DecodeError Lambda) : Reader StmtSlots :=
  readFields ["kind", "src", "pos", "chain", "lambda"] (storeStmtPart readLambda)

theorem storeStmtFields_eq_ok {readLambda : Json → Except DecodeError Lambda} {s : Stored StmtSlots}
    {x : StmtSlots} :
    storeStmtFields readLambda s fields = .ok ⟨x, false⟩ ↔
      fields.foldl (storeField ["kind", "src", "pos", "chain", "lambda"] (storeStmtPart readLambda)) s =
        ⟨x, false⟩ := by
  induction fields generalizing s with
  | nil => simp [storeStmtFields]
  | cons f rest ih =>
    obtain ⟨key, v⟩ := f
    rw [storeStmtFields, List.foldl_cons, storeField]
    cases fieldName? ["kind", "src", "pos", "chain", "lambda"] key with
    | none => exact ih
    | some k =>
      simp only [storeStmtPart]
      cases stored : storeStmtField readLambda k s.value v with
      | ok next => exact ih
      | error e =>
        have told := mismatch_foldl ["kind", "src", "pos", "chain", "lambda"] (storeStmtPart readLambda)
          rest s.value
        simp only [Bool.or_true, reduceCtorEq, false_iff]
        intro done
        rw [done] at told
        contradiction

theorem readStmtWithin_eq_ok {depth : Nat} {st : Stmt} :
    readStmtWithin (depth + 1) v = .ok st ↔
      ∃ s, readStmtSlots (readLambdaWithin depth) {} v = ⟨s, false⟩ ∧ s.toStmt = .ok st := by
  cases v with
  | object fields =>
    rw [readStmtWithin, readStmtSlots, readFields_object]
    simp only [← storeStmtFields_eq_ok]
    split
    · rename_i e read
      have read : storeStmtFields (readLambdaWithin depth) ⟨{}, false⟩ fields = .error e := read
      simp [read]
    · rename_i stored read
      have read : storeStmtFields (readLambdaWithin depth) ⟨{}, false⟩ fields = .ok stored := read
      obtain ⟨x, mismatch⟩ := stored
      cases mismatch with
      | true => simp [read, Stored.finish, Except.bind]
      | false => simp [read, Stored.finish, Except.bind]
  | null =>
    constructor
    · intro done
      exact ⟨{}, rfl, done⟩
    · rintro ⟨s, start, done⟩
      obtain rfl : {} = s := congrArg Stored.value start
      exact done
  | bool | number | string | array =>
    constructor
    · simp [readStmtWithin]
    · rintro ⟨s, start, -⟩
      exact absurd (congrArg Stored.mismatch start) (by simp [readStmtSlots, readFields])

theorem readMethod_eq_ok {m : Method} :
    readMethod v = .ok m ↔ ∃ s, readMethodSlots {} v = ⟨s, false⟩ ∧
      s.body.map readStmt = m.body.map .ok ∧ m.system = s.system ∧ m.package = s.package ∧
      m.receiver = s.receiver ∧ m.imports = s.imports.items.getD [] ∧ m.position = s.position := by
  rw [readMethod]
  constructor
  · intro done
    split at done
    · contradiction
    · rename_i s finished
      split at done
      · contradiction
      · rename_i body statements
        obtain rfl := Except.ok.inj done
        exact ⟨s, Stored.finish_eq_ok.mp finished, readStmtList_eq_ok.mp statements, rfl, rfl, rfl, rfl,
          rfl⟩
  · rintro ⟨s, finished, statements, system, package, receiver, imports, position⟩
    rw [Stored.finish_eq_ok.mpr finished]
    simp only [readStmtList_eq_ok.mpr statements, ← system, ← package, ← receiver, ← imports, ← position]

end Document

end SystemLoops
