import SystemLoops.Proofs.FieldReading
import SystemLoops.Proofs.JsonText
import SystemLoops.Proofs.WholeNumbers

namespace SystemLoops

/-! ### Statements at every level -/

namespace Stmt

mutual

/-- A statement and those in its function literal, at every level. -/
def nested : Stmt → List Stmt
  | .text source position => [.text source position]
  | .call source position chain => [.call source position chain]
  | .callWith source position chain params hasBody body =>
    .callWith source position chain params hasBody body :: nestedIn body

/-- Several statements and those in their function literals, at every level. -/
def nestedIn : List Stmt → List Stmt
  | [] => []
  | st :: rest => st.nested ++ nestedIn rest

end

theorem forall_nestedIn {P : Stmt → Prop} {body : List Stmt} :
    (∀ st ∈ nestedIn body, P st) ↔ ∀ inner ∈ body, ∀ st ∈ inner.nested, P st := by
  induction body with
  | nil => simp [nestedIn]
  | cons st rest ih => rw [nestedIn, List.forall_mem_append, ih, List.forall_mem_cons]

theorem forall_nested {P : Stmt → Prop} {st : Stmt} :
    (∀ inner ∈ st.nested, P inner) ↔
      P st ∧ ∀ l ∈ st.lambda?, ∀ inner ∈ l.body, ∀ deeper ∈ inner.nested, P deeper := by
  cases st with
  | text => simp [nested, lambda?]
  | call => simp [nested, lambda?]
  | callWith => simp [nested, lambda?, forall_nestedIn]

/-- Induction on the nesting of statements in function literals. -/
theorem nesting_induction {P : Stmt → Prop} (text : ∀ source position, P (.text source position))
    (call : ∀ source position chain, P (.call source position chain))
    (callWith : ∀ source position chain params hasBody body, (∀ st ∈ body, P st) →
      P (.callWith source position chain params hasBody body)) (st : Stmt) : P st :=
  @Stmt.rec P (fun body => ∀ st ∈ body, P st) text call callWith nofun
    (fun _ _ first rest => List.forall_mem_cons.mpr ⟨first, rest⟩) st

end Stmt

/-! ### What can be written as it is -/

/-- A position with a well-formed file name and numbers of 64 bits. -/
structure Position.Portable (p : Position) : Prop where
  file : p.file.isValid = true
  line : IsWord p.line
  column : IsWord p.column

/-- A statement whose own texts are well formed and whose position is portable. -/
structure Stmt.Portable (st : Stmt) : Prop where
  source : st.source.isValid = true
  position : st.position.Portable
  chain : ∀ m ∈ st.chain, m.name.isValid = true ∧ ∀ t ∈ m.typeArgs, t.isValid = true
  params : ∀ l ∈ st.lambda?, ∀ p ∈ l.params.getD [], p.type.isValid = true ∧ p.name.isValid = true

/-- A method whose texts are well formed and whose positions are portable, at every level. -/
structure Method.Portable (m : Method) : Prop where
  system : m.system.isValid = true
  package : m.package.isValid = true
  receiver : m.receiver.isValid = true
  imports : ∀ i ∈ m.imports, i.name.isValid = true ∧ i.path.isValid = true
  position : m.position.Portable
  body : ∀ st ∈ Stmt.nestedIn m.body, st.Portable

instance (p : Position) : Decidable p.Portable :=
  decidable_of_iff (p.file.isValid = true ∧ IsWord p.line ∧ IsWord p.column)
    ⟨fun ⟨file, line, column⟩ => ⟨file, line, column⟩, fun h => ⟨h.file, h.line, h.column⟩⟩

instance (st : Stmt) : Decidable st.Portable :=
  decidable_of_iff (st.source.isValid = true ∧ st.position.Portable ∧
      (∀ m ∈ st.chain, m.name.isValid = true ∧ ∀ t ∈ m.typeArgs, t.isValid = true) ∧
      ∀ l ∈ st.lambda?, ∀ p ∈ l.params.getD [], p.type.isValid = true ∧ p.name.isValid = true)
    ⟨fun ⟨source, position, chain, params⟩ => ⟨source, position, chain, params⟩,
      fun h => ⟨h.source, h.position, h.chain, h.params⟩⟩

namespace Document

open Format

variable {α : Type} {known : List String} {store : String → Reader α} {name : String}
  {fields others : List (Text × Json)} {old new : α} {v : Json}

/-! ### Fields are stored as they were written -/

/-- Reading fields over a value gives another one, without a mismatch. -/
def Stores (known : List String) (store : String → Reader α) (old : α) (fields : List (Text × Json))
    (new : α) : Prop :=
  fields.foldl (storeField known store) ⟨old, false⟩ = ⟨new, false⟩

theorem readFields_of_stores (stores : Stores known store old fields new) :
    readFields known store old (.object fields) = ⟨new, false⟩ := stores

theorem Stores.append (middle : α) (first : Stores known store old fields middle)
    (second : Stores known store middle others new) : Stores known store old (fields ++ others) new := by
  rw [Stores, List.foldl_append, first, second]

theorem stores_field (member : name ∈ known) (stored : store name old v = ⟨new, false⟩) :
    Stores known store old (field name v) new := by
  rw [Stores, field, List.foldl_cons, storeField_of_mem member, stored]
  rfl

/-- A field that is left out is one that would change nothing. -/
theorem stores_unless {skip : Prop} [Decidable skip] (member : name ∈ known)
    (stored : ¬ skip → store name old v = ⟨new, false⟩) (same : skip → new = old) :
    Stores known store old (if skip then [] else field name v) new := by
  split
  · rename_i skipped
    rw [same skipped]
    rfl
  · rename_i written
    exact stores_field member (stored written)

theorem stores_textField {t : Text} (member : name ∈ known)
    (stored : store name old (.string t) = ⟨new, false⟩) (same : t = [] → new = old) :
    Stores known store old (textField? name t) new :=
  stores_unless member (fun _ => stored) fun empty => same (List.isEmpty_iff.mp empty)

theorem stores_intField {n : Int} (member : name ∈ known)
    (stored : store name old (.ofInt n) = ⟨new, false⟩) (same : n = 0 → new = old) :
    Stores known store old (intField? name n) new :=
  stores_unless member (fun _ => stored) same

theorem stores_listField {items : List Json} (member : name ∈ known)
    (stored : items ≠ [] → store name old (.array items) = ⟨new, false⟩) (same : items = [] → new = old) :
    Stores known store old (listField? name items) new :=
  stores_unless member (fun some_item => stored fun empty => some_item (List.isEmpty_iff.mpr empty))
    fun empty => same (List.isEmpty_iff.mp empty)

/-! ### Flat parts -/

theorem readInt_ofInt {n : Int} (word : IsWord n) (old : Int) : readInt old (.ofInt n) = ⟨n, false⟩ := by
  rw [Json.ofInt, readInt, int64_ofInt word]

theorem readPosition_ofPosition {p : Position} (line : IsWord p.line) (column : IsWord p.column) :
    readPosition {} (ofPosition p) = ⟨p, false⟩ := by
  refine readFields_of_stores
    (.append { file := p.file, line := p.line } (.append { file := p.file } ?_ ?_) ?_)
  · exact stores_textField (by simp) rfl fun empty => by rw [empty]
  · refine stores_intField (by simp) ?_ fun zero => by rw [zero]
    simp only [readInt_ofInt line]
    rfl
  · refine stores_intField (by simp) ?_ fun zero => by rw [← zero]
    simp only [readInt_ofInt column]
    rfl

theorem readImport_ofImport (i : Import) : readImport ⟨[], []⟩ (ofImport i) = ⟨i, false⟩ := by
  refine readFields_of_stores (.append ⟨i.name, []⟩ ?_ ?_)
  · exact stores_textField (by simp) rfl fun empty => by rw [empty]
  · exact stores_field (by simp) rfl

theorem readParam_ofParam (p : Param) : readParam ⟨[], []⟩ (ofParam p) = ⟨p, false⟩ :=
  readFields_of_stores
    (.append ⟨p.type, []⟩ (stores_field (by simp) rfl) (stores_field (by simp) rfl))

theorem readSlots_map {γ : Type} {read : Reader α} {fresh : α} {describe : γ → Json} {held : γ → α}
    {xs : List γ} (each : ∀ x ∈ xs, read fresh (describe x) = ⟨held x, false⟩) :
    readSlots read fresh {} (.array (xs.map describe)) = ⟨⟨some (xs.map held), []⟩, false⟩ := by
  have items : readItems read fresh [] (xs.map describe) = (xs.map held, [], false) := by
    induction xs with
    | nil => rfl
    | cons x rest ih =>
      obtain ⟨first, later⟩ := List.forall_mem_cons.mp each
      simp only [List.map_cons, readItems, first, ih later, Bool.or_false]
  cases xs with
  | nil => rfl
  | cons x rest =>
    simp only [List.map_cons] at items ⊢
    simp only [readSlots, Option.getD_none, List.append_nil, items]

/-- A list that is left out when it is empty. -/
def slotsOf (xs : List α) : Slots α :=
  if xs.isEmpty then {} else ⟨some xs, []⟩

theorem items_slotsOf (xs : List α) : (slotsOf xs).items.getD [] = xs := by
  cases xs <;> rfl

theorem slotsOf_of_ne_nil {xs : List α} (present : xs ≠ []) : slotsOf xs = ⟨some xs, []⟩ :=
  if_neg fun empty => present (List.isEmpty_iff.mp empty)

/-- A member as it is read from its description. -/
def memberSlots (m : Member) : MemberSlots :=
  ⟨m.name, slotsOf m.typeArgs⟩

theorem readMember_ofMember (m : Member) : readMember {} (ofMember m) = ⟨memberSlots m, false⟩ := by
  refine readFields_of_stores (.append ⟨m.name, {}⟩ (stores_field (by simp) rfl) ?_)
  refine stores_listField (by simp) (fun present => ?_) fun empty => ?_
  · have items : readSlots readText [] {} (.array (m.typeArgs.map .string)) =
        ⟨⟨some (m.typeArgs.map id), []⟩, false⟩ := readSlots_map fun _ _ => rfl
    rw [List.map_id] at items
    rw [memberSlots, slotsOf_of_ne_nil (fun empty => present (by rw [empty]; rfl))]
    simp only [items]
    rfl
  · rw [memberSlots, List.map_eq_nil_iff.mp empty]
    rfl

/-! ### Statements -/

theorem ofStmts_eq_map (body : List Stmt) : ofStmts body = body.map ofStmt := by
  induction body with
  | nil => rfl
  | cons st rest ih => rw [ofStmts, ih, List.map_cons]

theorem readParams_ofParams (params : Option (List Param)) :
    readSlots readParam ⟨[], []⟩ {} (ofParams params) = ⟨⟨params, []⟩, false⟩ := by
  cases params with
  | none => rfl
  | some ps =>
    have items : readSlots readParam ⟨[], []⟩ {} (.array (ps.map ofParam)) =
        ⟨⟨some (ps.map id), []⟩, false⟩ := readSlots_map fun p _ => readParam_ofParam p
    rw [List.map_id] at items
    exact items

theorem readLambdaSlots_written (params : Option (List Param)) (hasBody : Bool) (body : List Json) :
    readLambdaSlots {} (.object (field "params" (ofParams params) ++ listField? "body" body
      ++ field "has_body" (.bool hasBody))) = ⟨⟨⟨params, []⟩, body, hasBody⟩, false⟩ := by
  refine readFields_of_stores (.append ⟨⟨params, []⟩, body, false⟩
    (.append ⟨⟨params, []⟩, [], false⟩ (stores_field (by simp) ?_) ?_) (stores_field (by simp) rfl))
  · simp only [readParams_ofParams]
    rfl
  · exact stores_listField (by simp) (fun _ => rfl) fun empty => by rw [empty]

theorem stores_call {readLambda : Json → Except DecodeError Lambda} {kind source : Text}
    {position : Position} (line : IsWord position.line) (column : IsWord position.column) :
    Stores ["kind", "src", "pos", "chain", "lambda"] (storeStmtPart readLambda) {}
      (field "kind" (.string kind) ++ field "src" (.string source) ++ field "pos" (ofPosition position))
      { kind, source, position } := by
  refine .append { kind, source } (.append { kind } (stores_field (by simp) rfl)
    (stores_field (by simp) rfl)) (stores_field (by simp) ?_)
  simp only [storeStmtPart_pos, readPosition_ofPosition line column]
  rfl

theorem stores_chain {readLambda : Json → Except DecodeError Lambda} {kind source : Text}
    {position : Position} (chain : List Member) :
    Stores ["kind", "src", "pos", "chain", "lambda"] (storeStmtPart readLambda)
      { kind, source, position } (listField? "chain" (chain.map ofMember))
      { kind, source, position, chain := slotsOf (chain.map memberSlots) } := by
  refine stores_listField (by simp) (fun present => ?_) fun empty => ?_
  · have items : readSlots readMember {} {} (.array (chain.map ofMember)) =
        ⟨⟨some (chain.map memberSlots), []⟩, false⟩ := readSlots_map fun m _ => readMember_ofMember m
    have some_member : chain.map memberSlots ≠ [] := by simpa using present
    simp only [storeStmtPart_chain, items, slotsOf_of_ne_nil some_member]
    rfl
  · rw [List.map_eq_nil_iff.mp empty]
    rfl

theorem members_of_slots (chain : List Member) :
    ((slotsOf (chain.map memberSlots)).items.getD []).map
      (fun m => (⟨m.name, m.typeArgs.items.getD []⟩ : Member)) = chain := by
  rw [items_slotsOf, List.map_map]
  refine List.map_id'' (fun m => ?_) chain
  simp only [Function.comp_apply, memberSlots, items_slotsOf]

/-- The body of a function literal is three levels below its statement. -/
theorem height_of_inner {source : Text} {position : Position} {chain : List Member}
    {params : Option (List Param)} {hasBody : Bool} {body : List Stmt} {inner : Stmt}
    (member : inner ∈ body) :
    (ofStmt inner).height + 3 ≤ (ofStmt (.callWith source position chain params hasBody body)).height := by
  have present : (ofStmts body).isEmpty = false := by
    cases body with
    | nil => contradiction
    | cons => rfl
  have item : ofStmt inner ∈ ofStmts body := by
    rw [ofStmts_eq_map]
    exact List.mem_map_of_mem member
  have list : (Text.ofString "body", Json.array (ofStmts body)) ∈ field "params" (ofParams params)
      ++ listField? "body" (ofStmts body) ++ field "has_body" (.bool hasBody) := by
    simp [listField?, present]
  have first := Json.height_lt_array item
  have second := Json.height_lt_object list
  have third : (Json.object (field "params" (ofParams params) ++ listField? "body" (ofStmts body)
      ++ field "has_body" (.bool hasBody))).height <
        (ofStmt (.callWith source position chain params hasBody body)).height :=
    Json.height_lt_object (List.mem_append_right _ (List.mem_singleton_self _))
  omega

theorem readStmtWithin_ofStmt {st : Stmt} (portable : ∀ inner ∈ st.nested, inner.Portable) {depth : Nat}
    (deep : (ofStmt st).height ≤ depth) : readStmtWithin depth (ofStmt st) = .ok st := by
  obtain ⟨depth, rfl⟩ := Json.exists_below deep
  induction st using Stmt.nesting_induction generalizing depth with
  | text source position =>
    have own := (Stmt.forall_nested.mp portable).1
    refine readStmtWithin_eq_ok.mpr ⟨{ kind := "text", source, position }, ?_, rfl⟩
    exact readFields_of_stores (stores_call own.position.line own.position.column)
  | call source position chain =>
    have own := (Stmt.forall_nested.mp portable).1
    refine readStmtWithin_eq_ok.mpr
      ⟨{ kind := "call", source, position, chain := slotsOf (chain.map memberSlots) }, ?_, ?_⟩
    · exact readFields_of_stores
        (.append _ (stores_call own.position.line own.position.column) (stores_chain chain))
    · simp only [StmtSlots.toStmt, members_of_slots]
      rfl
  | callWith source position chain params hasBody body ih =>
    obtain ⟨own, others⟩ := Stmt.forall_nested.mp portable
    have statements : (ofStmts body).map (readStmtWithin depth) = body.map .ok := by
      rw [ofStmts_eq_map, List.map_map]
      refine List.map_congr_left fun inner member => ?_
      have below := @height_of_inner source position chain params hasBody body inner member
      have inside : (ofStmt inner).height ≤ depth := by omega
      obtain ⟨depth, rfl⟩ := Json.exists_below inside
      exact ih inner member (others _ rfl inner member) depth inside
    have lambda := readLambdaWithin_eq_ok (l := ⟨params, body, hasBody⟩).mpr
      ⟨_, readLambdaSlots_written params hasBody (ofStmts body), statements, rfl, rfl⟩
    refine readStmtWithin_eq_ok.mpr
      ⟨{ kind := "call", source, position, chain := slotsOf (chain.map memberSlots)
         lambda := some ⟨params, body, hasBody⟩ }, ?_, ?_⟩
    · refine readFields_of_stores (.append _ (.append _
        (stores_call own.position.line own.position.column) (stores_chain chain))
        (stores_field (by simp) ?_))
      rw [storeStmtPart_lambda, readLambdaPart, lambda]
      · rfl
      · nofun
    · simp only [StmtSlots.toStmt, members_of_slots]
      rfl

theorem readMethod_ofMethod {m : Method} (portable : m.Portable) : readMethod (ofMethod m) = .ok m := by
  have fields : readMethodSlots {} (ofMethod m) =
      ⟨{ system := m.system, package := m.package, receiver := m.receiver
         imports := slotsOf m.imports, body := ofStmts m.body, position := m.position }, false⟩ := by
    refine readFields_of_stores (.append { system := m.system, package := m.package
                                           receiver := m.receiver, imports := slotsOf m.imports
                                           body := ofStmts m.body }
      (.append { system := m.system, package := m.package, receiver := m.receiver
                 imports := slotsOf m.imports }
        (.append { system := m.system, package := m.package, receiver := m.receiver }
          (.append { system := m.system, package := m.package }
            (.append { system := m.system } (stores_field (by simp) rfl) ?_) ?_) ?_) ?_) ?_)
    · exact stores_textField (by simp) rfl fun empty => by rw [empty]
    · exact stores_textField (by simp) rfl fun empty => by rw [empty]
    · refine stores_listField (by simp) (fun present => ?_) fun empty => ?_
      · have items : readSlots readImport ⟨[], []⟩ {} (.array (m.imports.map ofImport)) =
            ⟨⟨some (m.imports.map id), []⟩, false⟩ := readSlots_map fun i _ => readImport_ofImport i
        rw [List.map_id] at items
        rw [slotsOf_of_ne_nil (by simpa using present)]
        simp only [items]
        rfl
      · rw [List.map_eq_nil_iff.mp empty]
        rfl
    · refine stores_field (by simp) ?_
      cases m.body with
      | nil => rfl
      | cons => rfl
    · refine stores_field (by simp) ?_
      simp only [readPosition_ofPosition portable.position.line portable.position.column]
      rfl
  have statements : (ofStmts m.body).map readStmt = m.body.map .ok := by
    rw [ofStmts_eq_map, List.map_map]
    refine List.map_congr_left fun st member => ?_
    exact readStmtWithin_ofStmt (Stmt.forall_nestedIn.mp portable.body st member) (Nat.le_refl _)
  exact readMethod_eq_ok.mpr
    ⟨_, fields, statements, rfl, rfl, rfl, (items_slotsOf m.imports).symm, rfl⟩

/-! ### Descriptions can be written as they are -/

/-- Fields with well-formed names and values that can be written. -/
def ProperFields (fields : List (Text × Json)) : Prop :=
  ∀ f ∈ fields, f.1.isValid = true ∧ Json.Proper IsWordNumeral f.2

theorem integers_of_proper (proper : Json.Proper IsWordNumeral v) : Json.Proper Json.IsInteger v :=
  proper.mono fun _ ⟨n, _, same⟩ => ⟨n, same⟩

theorem proper_object (proper : ProperFields fields) : Json.Proper IsWordNumeral (.object fields) :=
  .object (fun f member => (proper f member).1) fun f member => (proper f member).2

theorem ProperFields.append (first : ProperFields fields) (second : ProperFields others) :
    ProperFields (fields ++ others) :=
  List.forall_mem_append.mpr ⟨first, second⟩

theorem isValid_ofString (s : String) : (Text.ofString s).isValid = true := by
  rw [Text.ofString_eq]
  exact Text.isValid_ofChars s.toList

theorem properFields_field (proper : Json.Proper IsWordNumeral v) : ProperFields (field name v) :=
  forall_mem_field ⟨isValid_ofString name, proper⟩

theorem properFields_unless {skip : Prop} [Decidable skip] (proper : Json.Proper IsWordNumeral v) :
    ProperFields (if skip then [] else field name v) :=
  forall_mem_unless fun _ => ⟨isValid_ofString name, proper⟩

theorem properFields_text {t : Text} (valid : t.isValid = true) : ProperFields (textField? name t) :=
  properFields_unless (.string valid)

theorem properFields_int {n : Int} (word : IsWord n) : ProperFields (intField? name n) :=
  properFields_unless (.number ⟨n, word, rfl⟩)

theorem properFields_list {items : List Json} (each : ∀ v ∈ items, Json.Proper IsWordNumeral v) :
    ProperFields (listField? name items) :=
  properFields_unless (.array each)

theorem proper_ofPosition {p : Position} (portable : p.Portable) :
    Json.Proper IsWordNumeral (ofPosition p) :=
  proper_object (((properFields_text portable.file).append (properFields_int portable.line)).append
    (properFields_int portable.column))

theorem proper_ofImport {i : Import} (valid : i.name.isValid = true ∧ i.path.isValid = true) :
    Json.Proper IsWordNumeral (ofImport i) :=
  proper_object ((properFields_text valid.1).append (properFields_field (.string valid.2)))

theorem proper_ofMember {m : Member}
    (valid : m.name.isValid = true ∧ ∀ t ∈ m.typeArgs, t.isValid = true) :
    Json.Proper IsWordNumeral (ofMember m) :=
  proper_object ((properFields_field (.string valid.1)).append
    (properFields_list (List.forall_mem_map.mpr fun t member => .string (valid.2 t member))))

theorem proper_ofParams {params : Option (List Param)}
    (valid : ∀ p ∈ params.getD [], p.type.isValid = true ∧ p.name.isValid = true) :
    Json.Proper IsWordNumeral (ofParams params) := by
  cases params with
  | none => exact .null
  | some ps =>
    refine .array (List.forall_mem_map.mpr fun p member => proper_object ?_)
    obtain ⟨type, name⟩ := valid p member
    exact (properFields_field (.string type)).append (properFields_field (.string name))

theorem proper_ofStmt {st : Stmt} (portable : ∀ inner ∈ st.nested, inner.Portable) :
    Json.Proper IsWordNumeral (ofStmt st) := by
  have common {own : Stmt} (portable : own.Portable) (s : String) :
      ProperFields (field "kind" (.string s) ++ field "src" (.string own.source)
        ++ field "pos" (ofPosition own.position)) :=
    ((properFields_field (.string (isValid_ofString s))).append (properFields_field (.string portable.source))).append
      (properFields_field (proper_ofPosition portable.position))
  have members {own : Stmt} (portable : own.Portable) :
      ProperFields (listField? "chain" (own.chain.map ofMember)) :=
    properFields_list (List.forall_mem_map.mpr fun m member => proper_ofMember (portable.chain m member))
  induction st using Stmt.nesting_induction with
  | text source position =>
    have own := (Stmt.forall_nested.mp portable).1
    exact proper_object (common own "text")
  | call source position chain =>
    have own := (Stmt.forall_nested.mp portable).1
    exact proper_object ((common own "call").append (members own))
  | callWith source position chain params hasBody body ih =>
    obtain ⟨own, others⟩ := Stmt.forall_nested.mp portable
    have statements : ∀ v ∈ ofStmts body, Json.Proper IsWordNumeral v := by
      rw [ofStmts_eq_map]
      exact List.forall_mem_map.mpr fun inner member => ih inner member (others _ rfl inner member)
    refine proper_object (((common own "call").append (members own)).append
      (properFields_field (proper_object ?_)))
    exact ((properFields_field (proper_ofParams (own.params _ rfl))).append
      (properFields_list statements)).append (properFields_field (.bool hasBody))

theorem proper_ofMethod {m : Method} (portable : m.Portable) :
    Json.Proper IsWordNumeral (ofMethod m) := by
  have statements : ∀ v ∈ ofStmts m.body, Json.Proper IsWordNumeral v := by
    rw [ofStmts_eq_map]
    exact List.forall_mem_map.mpr fun st member =>
      proper_ofStmt (Stmt.forall_nestedIn.mp portable.body st member)
  have body : Json.Proper IsWordNumeral (if m.body.isEmpty then .null else .array (ofStmts m.body)) := by
    split
    · exact .null
    · exact .array statements
  exact proper_object ((((((properFields_field (.string portable.system)).append
    (properFields_text portable.package)).append (properFields_text portable.receiver)).append
    (properFields_list (List.forall_mem_map.mpr fun i member =>
      proper_ofImport (portable.imports i member)))).append
    (properFields_field body)).append (properFields_field (proper_ofPosition portable.position)))

/-- A method is read back from its text, without asking the schema. -/
theorem decodeMethod_compact (m : Method) (portable : m.Portable)
    (shallow : (ofMethod m).nesting ≤ Json.Machine.maxNesting) :
    decodeMethod (ofMethod m).compact = .ok m := by
  rw [decodeMethod, Json.parse_compact (integers_of_proper (proper_ofMethod portable)) shallow]
  exact readMethod_ofMethod portable

/-- A loop around a call and a function literal of which nothing is known, with texts to be escaped and
the greatest and the least position. -/
def layered : Method :=
  { system := "Motion", imports := [⟨"m", "math"⟩, ⟨[], "fmt"⟩]
    position := { file := "a<b>.go", line := -2 ^ 63, column := 2 ^ 63 - 1 }
    body := [
      .text "s := \"é\\u2028\\n\"\n" { line := 1 },
      .callWith "m.Each" { line := 2, column := 3 } [⟨"With", ["A", "B"]⟩, ⟨"Each", []⟩]
        (some [⟨"Pos", "p"⟩]) true [
          .call "p.Move()" {} [],
          .callWith "p.Visit" {} [⟨"Visit", []⟩] none false []]] }

theorem decodeMethod_compact_layered :
    layered.Portable ∧ (ofMethod layered).nesting ≤ Json.Machine.maxNesting ∧
      decodeMethod (ofMethod layered).compact = .ok layered := by
  have portable : layered.Portable :=
    ⟨by decide +kernel, by decide +kernel, by decide +kernel, by decide +kernel, by decide +kernel,
      by decide +kernel⟩
  have shallow : (ofMethod layered).nesting ≤ Json.Machine.maxNesting := by decide +kernel
  exact ⟨portable, shallow, decodeMethod_compact layered portable shallow⟩

end Document

end SystemLoops
