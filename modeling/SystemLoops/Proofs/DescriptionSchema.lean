import SystemLoops.Proofs.SchemaReading

namespace SystemLoops

/-- A statement whose description the schema accepts, the names of its members apart. -/
structure Stmt.Acceptable (st : Stmt) : Prop where
  position : st.position.NonNegative
  typeArgs : ∀ m ∈ st.chain, ∀ t ∈ m.typeArgs, t ≠ []
  chain : (∃ source position, st = .text source position) ∨ st.chain ≠ []

/-- A method whose description the schema accepts, its names and paths apart. -/
structure Method.Acceptable (m : Method) : Prop where
  position : m.position.NonNegative
  body : ∀ st ∈ Stmt.nestedIn m.body, st.Acceptable

theorem Stmt.acceptable_iff {st : Stmt} : st.Acceptable ↔ st.position.NonNegative ∧
    (∀ m ∈ st.chain, ∀ t ∈ m.typeArgs, t ≠ []) ∧
      ((∃ source position, st = .text source position) ∨ st.chain ≠ []) :=
  ⟨fun h => ⟨h.position, h.typeArgs, h.chain⟩, fun ⟨position, typeArgs, chain⟩ =>
    ⟨position, typeArgs, chain⟩⟩

theorem Method.acceptable_iff {m : Method} : m.Acceptable ↔
    m.position.NonNegative ∧ ∀ st ∈ Stmt.nestedIn m.body, st.Acceptable :=
  ⟨fun h => ⟨h.position, h.body⟩, fun ⟨position, body⟩ => ⟨position, body⟩⟩

instance (p : Position) : Decidable p.NonNegative :=
  inferInstanceAs (Decidable (_ ∧ _))

instance : (st : Stmt) → Decidable (∃ source position, st = .text source position)
  | .text source position => .isTrue ⟨source, position, rfl⟩
  | .call _ _ _ => .isFalse nofun
  | .callWith _ _ _ _ _ _ => .isFalse nofun

instance (st : Stmt) : Decidable st.Acceptable :=
  decidable_of_iff _ Stmt.acceptable_iff.symm

instance (m : Method) : Decidable m.Acceptable :=
  decidable_of_iff _ Method.acceptable_iff.symm

namespace Document

open Format

variable {known required : List String} {fields others : List (Text × Json)} {name key : String}
  {v : Json}

/-! ### Written fields -/

@[simp]
theorem hasFields_iff : Schema.hasFields fields known required = true ↔
    Named known fields ∧ ∀ name ∈ required, (Schema.field? fields name).isSome = true := by
  constructor
  · intro has
    refine ⟨named_of_hasFields has, fun name member => ?_⟩
    exact Option.isSome_iff_exists.mpr (isSome_of_hasFields has member)
  · rintro ⟨named, present⟩
    rw [Schema.hasFields, Bool.and_eq_true, List.all_eq_true, List.all_eq_true]
    refine ⟨fun f member => ?_, present⟩
    obtain ⟨k, known, spelled⟩ := named f member
    exact List.any_eq_true.mpr ⟨k, known, beq_iff_eq.mpr spelled.symm⟩

@[simp]
theorem named_append : Named known (fields ++ others) ↔ Named known fields ∧ Named known others :=
  List.forall_mem_append

@[simp]
theorem named_field (member : name ∈ known) : Named known (field name v) :=
  forall_mem_field ⟨name, member, rfl⟩

theorem named_unless {skip : Prop} [Decidable skip] (member : name ∈ known) :
    Named known (if skip then [] else field name v) :=
  forall_mem_unless fun _ => ⟨name, member, rfl⟩

@[simp]
theorem named_textField {t : Text} (member : name ∈ known) : Named known (textField? name t) :=
  named_unless member

@[simp]
theorem named_intField {n : Int} (member : name ∈ known) : Named known (intField? name n) :=
  named_unless member

@[simp]
theorem named_listField {items : List Json} (member : name ∈ known) :
    Named known (listField? name items) :=
  named_unless member

@[simp]
theorem field_append (fields others : List (Text × Json)) (name : String) :
    Schema.field? (fields ++ others) name =
      (Schema.field? others name).or (Schema.field? fields name) := by
  rw [Schema.field?, List.reverse_append, List.find?_append, Option.map_or]
  rfl

@[simp]
theorem field_field (key name : String) (v : Json) :
    Schema.field? (field key v) name = if key = name then some v else none := by
  by_cases same : key = name
  · simp [Schema.field?, field, same]
  · have apart : Text.ofString key ≠ Text.ofString name := fun bytes =>
      same (Text.ofString_injective bytes)
    simp [Schema.field?, field, same, apart]

theorem field_unless {skip : Prop} [Decidable skip] (key name : String) (v : Json) :
    Schema.field? (if skip then [] else field key v) name =
      if ¬ skip ∧ key = name then some v else none := by
  split
  · rename_i skipped
    rw [if_neg fun written => written.1 skipped]
    rfl
  · rename_i written
    rw [field_field]
    simp only [written, not_false_eq_true, true_and]

@[simp]
theorem field_textField (key name : String) (t : Text) :
    Schema.field? (textField? key t) name =
      if ¬ t.isEmpty = true ∧ key = name then some (.string t) else none :=
  field_unless key name _

@[simp]
theorem field_intField (key name : String) (n : Int) :
    Schema.field? (intField? key n) name = if ¬ n = 0 ∧ key = name then some (.ofInt n) else none :=
  field_unless key name _

@[simp]
theorem field_listField (key name : String) (items : List Json) :
    Schema.field? (listField? key items) name =
      if ¬ items.isEmpty = true ∧ key = name then some (.array items) else none :=
  field_unless key name _

/-! ### Flat parts -/

@[simp]
theorem isString_string (t : Text) : Schema.isString (.string t) = true := rfl

@[simp]
theorem isNonEmptyString_string (t : Text) : Schema.isNonEmptyString (.string t) = true ↔ t ≠ [] := by
  simp [Schema.isNonEmptyString]

theorem isCount_ofInt {n : Int} (word : IsWord n) : Schema.isCount (.ofInt n) = true ↔ 0 ≤ n :=
  (isCount_iff (int64_ofInt word)).2

@[simp]
theorem isListOf_map {α : Type} {check : Json → Bool} {describe : α → Json} {xs : List α} :
    Schema.isListOf check (.array (xs.map describe)) = true ↔ ∀ x ∈ xs, check (describe x) = true := by
  rw [Schema.isListOf, List.all_eq_true, List.forall_mem_map]

/-- Nothing is asked of the items of a list that is left out. -/
theorem forall_mem_unless_nil {α : Type} {xs : List α} {P : α → Prop} :
    (¬ xs = [] → ∀ x ∈ xs, P x) ↔ ∀ x ∈ xs, P x := by
  cases xs <;> simp

theorem isPosition_ofPosition {p : Position} (line : IsWord p.line) (column : IsWord p.column) :
    Schema.isPosition (ofPosition p) = true ↔ p.NonNegative := by
  have unless_zero (n : Int) : (¬ n = 0 → 0 ≤ n) ↔ 0 ≤ n := by omega
  simp [ofPosition, Schema.isPosition, optional_eq_true, isCount_ofInt line, isCount_ofInt column,
    unless_zero, Position.NonNegative]

theorem isImport_ofImport (i : Import) : Schema.isImport (ofImport i) = true ↔ i.path ≠ [] := by
  simp [ofImport, Schema.isImport, optional_eq_true]

theorem isMember_ofMember (m : Member) : Schema.isMember (ofMember m) = true ↔
    m.name ≠ [] ∧ ∀ t ∈ m.typeArgs, t ≠ [] := by
  simp [ofMember, Schema.isMember, optional_eq_true, forall_mem_unless_nil]

theorem isParams_ofParams (params : Option (List Param)) :
    Schema.isParams (ofParams params) = true := by
  cases params with
  | none => rfl
  | some ps =>
    have listed : Schema.isListOf Schema.isParam (.array (ps.map ofParam)) = true := by
      simp [ofParam, Schema.isParam, optional_eq_true]
    exact listed

/-! ### Statements -/

/-- Of a function literal only the statements can be wrong. -/
theorem isLambdaWithin_written (levels : Nat) (params : Option (List Param)) (hasBody : Bool)
    (body : List Stmt) :
    Schema.isLambdaWithin levels (.object (field "params" (ofParams params)
      ++ listField? "body" (ofStmts body) ++ field "has_body" (.bool hasBody))) = true ↔
      ∀ inner ∈ body, Schema.isStmtWithin levels (ofStmt inner) = true := by
  have listed : Schema.isBodyWithin levels (.array (body.map ofStmt)) = true ↔
      ∀ inner ∈ body, Schema.isStmtWithin levels (ofStmt inner) = true := isListOf_map
  simp [Schema.isLambdaWithin, optional_eq_true, isParams_ofParams, ofStmts_eq_map, listed,
    forall_mem_unless_nil, Schema.isBool]

theorem isMember_of_named {chain : List Member} (named : ∀ m ∈ chain, m.name ≠ []) :
    (∀ m ∈ chain, Schema.isMember (ofMember m) = true) ↔ ∀ m ∈ chain, ∀ t ∈ m.typeArgs, t ≠ [] := by
  refine forall_congr' fun m => imp_congr_right fun member => ?_
  rw [isMember_ofMember]
  exact and_iff_right (named m member)

/-- The schema accepts the description of a statement exactly when the statement and all those in its
function literal are acceptable. -/
theorem isStmtWithin_ofStmt {st : Stmt} (portable : ∀ inner ∈ st.nested, inner.Portable)
    (named : ∀ inner ∈ st.nested, ∀ m ∈ inner.chain, m.name ≠ []) {levels : Nat}
    (deep : (ofStmt st).height ≤ levels) :
    Schema.isStmtWithin levels (ofStmt st) = true ↔ ∀ inner ∈ st.nested, inner.Acceptable := by
  have different : Text.ofString "text" ≠ Text.ofString "call" := by decide
  induction st using Stmt.nesting_induction generalizing levels with
  | text source position =>
    obtain ⟨levels, rfl⟩ := Json.exists_below deep
    have own := (Stmt.forall_nested.mp portable).1.position
    have placed : Schema.isPosition (ofPosition position) = true ↔ position.NonNegative :=
      isPosition_ofPosition own.line own.column
    rw [ofStmt, Schema.isStmtWithin_object, Stmt.forall_nested, Stmt.acceptable_iff]
    simp [optional_eq_true, Schema.isKind, Schema.isCall, placed, different, Stmt.position, Stmt.chain,
      Stmt.lambda?]
  | call source position chain =>
    obtain ⟨levels, rfl⟩ := Json.exists_below deep
    have own := (Stmt.forall_nested.mp portable).1.position
    have placed : Schema.isPosition (ofPosition position) = true ↔ position.NonNegative :=
      isPosition_ofPosition own.line own.column
    have members : (∀ m ∈ chain, Schema.isMember (ofMember m) = true) ↔
        ∀ m ∈ chain, ∀ t ∈ m.typeArgs, t ≠ [] := isMember_of_named (Stmt.forall_nested.mp named).1
    rw [ofStmt, Schema.isStmtWithin_object, Stmt.forall_nested, Stmt.acceptable_iff]
    simp [optional_eq_true, Schema.isKind, Schema.isCall, placed, members, forall_mem_unless_nil,
      Stmt.position, Stmt.chain, Stmt.lambda?, and_assoc]
  | callWith source position chain params hasBody body ih =>
    obtain ⟨levels, rfl⟩ := Json.exists_below deep
    obtain ⟨own, portable⟩ := Stmt.forall_nested.mp portable
    obtain ⟨names, named⟩ := Stmt.forall_nested.mp named
    have placed : Schema.isPosition (ofPosition position) = true ↔ position.NonNegative :=
      isPosition_ofPosition own.position.line own.position.column
    have members : (∀ m ∈ chain, Schema.isMember (ofMember m) = true) ↔
        ∀ m ∈ chain, ∀ t ∈ m.typeArgs, t ≠ [] := isMember_of_named names
    have statements : (∀ inner ∈ body, Schema.isStmtWithin levels (ofStmt inner) = true) ↔
        ∀ inner ∈ body, ∀ deeper ∈ inner.nested, deeper.Acceptable := by
      refine forall_congr' fun inner => imp_congr_right fun member => ?_
      have below := @height_of_inner source position chain params hasBody body inner member
      exact ih inner member (portable _ rfl inner member) (named _ rfl inner member) (by omega)
    rw [ofStmt, Schema.isStmtWithin_object, Stmt.forall_nested, Stmt.acceptable_iff]
    simp [-List.append_assoc, optional_eq_true, Schema.isKind, Schema.isCall, placed, members,
      isLambdaWithin_written, statements, forall_mem_unless_nil, Stmt.position, Stmt.chain, Stmt.lambda?,
      and_comm, and_left_comm]

/-! ### Methods and documents -/

theorem isMethod_ofMethod {m : Method} (portable : m.Portable) (sound : m.Named) :
    Schema.isMethod (ofMethod m) = true ↔ m.Acceptable := by
  have statements : (∀ st ∈ m.body, Schema.isStmt (ofStmt st) = true) ↔
      ∀ st ∈ Stmt.nestedIn m.body, st.Acceptable := by
    rw [Stmt.forall_nestedIn]
    refine forall_congr' fun st => imp_congr_right fun member => ?_
    exact isStmtWithin_ofStmt (Stmt.forall_nestedIn.mp portable.body st member)
      (Stmt.forall_nestedIn.mp sound.members st member) (Nat.le_refl _)
  have body : Schema.isBody (if m.body = [] then .null else .array (ofStmts m.body)) = true ↔
      ∀ st ∈ Stmt.nestedIn m.body, st.Acceptable := by
    rw [← statements]
    cases m.body with
    | nil => simp [Schema.isBody]
    | cons st rest =>
      rw [ofStmts_eq_map]
      exact isListOf_map
  have imports : (∀ i ∈ m.imports, Schema.isImport (ofImport i) = true) ↔ True :=
    iff_true_intro fun i member => (isImport_ofImport i).mpr (sound.imports i member)
  have placed := isPosition_ofPosition portable.position.line portable.position.column
  rw [ofMethod, Schema.isMethod, Method.acceptable_iff]
  simp [-List.append_assoc, optional_eq_true, sound.system, body, placed, imports, and_comm]

def ofMethods (ms : List Method) : Json :=
  .object (field "methods" (.array (ms.map ofMethod)))

theorem accepts_ofMethods {ms : List Method} (portable : ∀ m ∈ ms, m.Portable)
    (named : ∀ m ∈ ms, m.Named) : Schema.accepts (ofMethods ms) = true ↔ ∀ m ∈ ms, m.Acceptable := by
  have methods : (∀ m ∈ ms, Schema.isMethod (ofMethod m) = true) ↔ ∀ m ∈ ms, m.Acceptable :=
    forall_congr' fun m => imp_congr_right fun member =>
      isMethod_ofMethod (portable m member) (named m member)
  simp [ofMethods, Schema.accepts, optional_eq_true, methods]

end Document

end SystemLoops
