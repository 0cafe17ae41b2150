import SystemLoops.Proofs.MethodText

/-!
What the schema says about the methods that are read. The schema looks at the last field of a name, and
reading takes every field in order. Texts, lists and function literals replace what was read before, so
for them the two agree; positions and members are read over what was there, so they agree only where
`pos` and `chain` are not given twice.
-/

namespace SystemLoops

def Position.NonNegative (p : Position) : Prop :=
  0 ≤ p.line ∧ 0 ≤ p.column

/-- A name of letters, digits and underscores that does not start with a digit. -/
def Text.IsName (t : Text) : Prop :=
  ∃ first rest, t = ofChars (first :: rest) ∧ (first.isAlpha = true ∨ first = '_') ∧
    ∀ c ∈ rest, c.isAlphanum = true ∨ c = '_'

/-- A method whose names and paths the schema accepts. -/
structure Method.Named (m : Method) : Prop where
  system : Document.Schema.isSystemName (.string m.system) = true
  imports : ∀ i ∈ m.imports, i.path ≠ []
  members : ∀ st ∈ Stmt.nestedIn m.body, ∀ member ∈ st.chain, member.name ≠ []

namespace Format.Json

mutual

/-- Whether the fields of every object in a value satisfy a check. -/
def everyObject (check : List (Text × Json) → Bool) : Json → Bool
  | .array items => everyObjectIn check items
  | .object fields => check fields && everyObjectOf check fields
  | _ => true

/-- Whether the fields of every object in several values satisfy a check. -/
def everyObjectIn (check : List (Text × Json) → Bool) : List Json → Bool
  | [] => true
  | v :: rest => v.everyObject check && everyObjectIn check rest

/-- Whether the fields of every object in several fields satisfy a check. -/
def everyObjectOf (check : List (Text × Json) → Bool) : List (Text × Json) → Bool
  | [] => true
  | (_, v) :: rest => v.everyObject check && everyObjectOf check rest

end

variable {check : List (Text × Json) → Bool}

theorem everyObject_array {items : List Json} :
    (array items).everyObject check = true ↔ ∀ v ∈ items, v.everyObject check = true := by
  rw [everyObject]
  induction items with
  | nil => simp [everyObjectIn]
  | cons v rest ih => rw [everyObjectIn, Bool.and_eq_true, ih, List.forall_mem_cons]

theorem everyObject_object {fields : List (Text × Json)} :
    (object fields).everyObject check = true ↔
      check fields = true ∧ ∀ f ∈ fields, f.2.everyObject check = true := by
  have inside : everyObjectOf check fields = true ↔ ∀ f ∈ fields, f.2.everyObject check = true := by
    induction fields with
    | nil => simp [everyObjectOf]
    | cons f rest ih => rw [everyObjectOf, Bool.and_eq_true, ih, List.forall_mem_cons]
  rw [everyObject, Bool.and_eq_true, inside]

end Format.Json

namespace Document

open Format

variable {fields : List (Text × Json)} {st : Stmt} {v : Json}

/-! ### The schema of statements -/

namespace Schema

/-- The body of a function literal. -/
def isBodyWithin (levels : Nat) : Json → Bool
  | .null => true
  | v => isListOf (isStmtWithin levels) v

/-- A function literal. -/
def isLambdaWithin (levels : Nat) : Json → Bool
  | .object fields =>
    hasFields fields ["params", "body", "has_body"] ["params", "has_body"]
      && optional fields "params" isParams && optional fields "body" (isBodyWithin levels)
      && optional fields "has_body" isBool
  | _ => false

/-- Whether the fields of a statement do not say that it is something else than a call. -/
def isCall (fields : List (Text × Json)) : Bool :=
  match field? fields "kind" with
  | some (.string t) => t == Text.ofString "call"
  | none => true
  | _ => false

theorem isStmtWithin_object (levels : Nat) (fields : List (Text × Json)) :
    isStmtWithin (levels + 1) (.object fields) =
      (hasFields fields ["kind", "src", "pos", "chain", "lambda"] ["kind", "src"]
        && optional fields "kind" isKind && optional fields "src" isString
        && optional fields "pos" isPosition && optional fields "chain" (isListOf isMember)
        && optional fields "lambda" (isLambdaWithin levels)
        && (!isCall fields || (field? fields "chain").isSome)) := rfl

theorem isBodyWithin_cases {levels : Nat} (accepted : isBodyWithin levels v = true) :
    v = .null ∨ isListOf (isStmtWithin levels) v = true := by
  cases v with
  | null => exact .inl rfl
  | _ => exact .inr accepted

theorem isBody_cases (accepted : isBody v = true) : v = .null ∨ isListOf isStmt v = true := by
  cases v with
  | null => exact .inl rfl
  | _ => exact .inr accepted

theorem exists_items {check : Json → Bool} (accepted : isListOf check v = true) :
    ∃ vs, v = .array vs ∧ ∀ w ∈ vs, check w = true := by
  cases v with
  | array vs => exact ⟨vs, rfl, List.all_eq_true.mp accepted⟩
  | _ => contradiction

end Schema

/-! ### Statements that the schema accepts -/

/-- What is known of a function literal whose description was accepted and read: its parameters come
from those given last, and every statement of its body from one of the body given last. -/
structure LambdaReading (P : Json → Stmt → Prop) (fields : List (Text × Json)) (l : Lambda) : Prop where
  params : ∃ slots, slots.items = l.params ∧
    Reads (readSlots readParam ⟨[], []⟩) {} (valuesOf "params" fields) slots
  paramsAccepted : ∀ v, Schema.field? fields "params" = some v → Schema.isParams v = true
  body : ∀ inner ∈ l.body, ∃ vs, Schema.field? fields "body" = some (.array vs) ∧ ∃ v ∈ vs, P v inner

/-- What is known of a statement whose description was accepted and read. -/
structure StmtReading (P : Json → Stmt → Prop) (fields : List (Text × Json)) (st : Stmt) : Prop where
  source : Reads readText [] (valuesOf "src" fields) st.source
  position : Reads readPosition {} (valuesOf "pos" fields) st.position
  positionAccepted : ∀ v, Schema.field? fields "pos" = some v → Schema.isPosition v = true
  chain : ∃ slots, Reads (readSlots readMember {}) {} (valuesOf "chain" fields) slots ∧
    ∀ m ∈ st.chain, ∃ x ∈ slots.items.getD [], m = ⟨x.name, x.typeArgs.items.getD []⟩
  chainAccepted : ∀ v, Schema.field? fields "chain" = some v → Schema.isListOf Schema.isMember v = true
  lambda : ∀ l ∈ st.lambda?, ∃ inside, Schema.field? fields "lambda" = some (.object inside) ∧
    LambdaReading P inside l

theorem toStmt_eq_ok {s : StmtSlots} (done : s.toStmt = .ok st) :
    st.source = s.source ∧ st.position = s.position ∧
      (∀ m ∈ st.chain, ∃ x ∈ s.chain.items.getD [], m = ⟨x.name, x.typeArgs.items.getD []⟩) ∧
      ∀ l ∈ st.lambda?, s.lambda = some l := by
  have members : ∀ m ∈ (s.chain.items.getD []).map
      (fun x => (⟨x.name, x.typeArgs.items.getD []⟩ : Member)),
      ∃ x ∈ s.chain.items.getD [], m = ⟨x.name, x.typeArgs.items.getD []⟩ := by
    intro m member
    obtain ⟨x, held, rfl⟩ := List.mem_map.mp member
    exact ⟨x, held, rfl⟩
  rw [StmtSlots.toStmt] at done
  split at done
  · obtain rfl := Except.ok.inj done
    exact ⟨rfl, rfl, by simp [Stmt.chain], by simp [Stmt.lambda?]⟩
  · split at done
    · split at done
      · obtain rfl := Except.ok.inj done
        exact ⟨rfl, rfl, members, by simp [Stmt.lambda?]⟩
      · rename_i l given
        obtain rfl := Except.ok.inj done
        refine ⟨rfl, rfl, members, fun other same => ?_⟩
        rw [given, ← Option.some.inj same]
    · contradiction

theorem readLambdaPart_eq {readLambda : Json → Except DecodeError Lambda} {old : Option Lambda} {l : Lambda}
    (done : readLambdaPart readLambda old (.object fields) = ⟨some l, false⟩) :
    readLambda (.object fields) = .ok l := by
  rw [readLambdaPart] at done
  split at done
  · rename_i read
    rw [read, Option.some.inj (congrArg Stored.value done)]
  · exact absurd (congrArg Stored.mismatch done) (by simp)
  · simp

theorem statements_of_field {read : Json → Except DecodeError Stmt} {check : Json → Bool}
    {raw : List Json} {sts : List Stmt} (reads : Reads readRaw [] (valuesOf "body" fields) raw)
    (accepted : ∀ v, Schema.field? fields "body" = some v → v = .null ∨ Schema.isListOf check v = true)
    (done : raw.map read = sts.map .ok) :
    ∀ st ∈ sts, ∃ vs, Schema.field? fields "body" = some (.array vs) ∧
      ∃ v ∈ vs, read v = .ok st ∧ check v = true := by
  intro st member
  obtain ⟨w, source, found⟩ : ∃ w ∈ raw, read w = .ok st := by
    have listed : .ok st ∈ raw.map read := by
      rw [done]
      exact List.mem_map_of_mem member
    exact List.mem_map.mp listed
  rcases reads.of_field with ⟨-, rfl⟩ | ⟨v, place, last, replaced⟩
  · contradiction
  · rcases accepted v last with rfl | listed
    · obtain rfl : [] = raw := congrArg Stored.value replaced
      contradiction
    · obtain ⟨vs, rfl, each⟩ := Schema.exists_items listed
      obtain rfl : vs = raw := congrArg Stored.value replaced
      exact ⟨vs, last, w, source, found, each w source⟩

theorem lambdaReading {P : Json → Stmt → Prop} {depth levels : Nat} {l : Lambda}
    (accepted : Schema.isLambdaWithin levels (.object fields) = true)
    (done : readLambdaWithin depth (.object fields) = .ok l)
    (each : ∀ v inner, readStmtWithin depth v = .ok inner → Schema.isStmtWithin levels v = true →
      P v inner) : LambdaReading P fields l := by
  simp only [Schema.isLambdaWithin, Bool.and_eq_true, optional_eq_true] at accepted
  obtain ⟨⟨⟨has, params⟩, body⟩, -⟩ := accepted
  obtain ⟨s, slots, statements, given, -⟩ := readLambdaWithin_eq_ok.mp done
  have named := named_of_hasFields has
  have raw : Reads readRaw [] (valuesOf "body" fields) s.body :=
    reads_part LambdaSlots.body (fun _ _ => rfl) (by simp) named slots
  refine ⟨⟨s.params, given.symm, ?_⟩, params, fun inner member => ?_⟩
  · exact reads_part LambdaSlots.params (fun _ _ => rfl) (by simp) named slots
  · obtain ⟨vs, last, v, source, read, fine⟩ := statements_of_field raw
      (fun v given => Schema.isBodyWithin_cases (body v given)) statements inner member
    exact ⟨vs, last, v, source, each v inner read fine⟩

/-- What holds of every accepted statement when it holds of those in its function literal. -/
theorem read_induction {P : Json → Stmt → Prop}
    (step : ∀ fields st, StmtReading P fields st → P (.object fields) st) {depth levels : Nat}
    (done : readStmtWithin depth v = .ok st) (accepted : Schema.isStmtWithin levels v = true) :
    P v st := by
  induction depth generalizing v st levels with
  | zero => contradiction
  | succ depth ih =>
    obtain ⟨s, slots, finished⟩ := readStmtWithin_eq_ok.mp done
    obtain ⟨levels, fields, rfl, rfl⟩ : ∃ below fields, levels = below + 1 ∧ v = .object fields := by
      cases levels with
      | zero => contradiction
      | succ below =>
        cases v with
        | object fields => exact ⟨below, fields, rfl, rfl⟩
        | _ => contradiction
    simp only [Schema.isStmtWithin_object, Bool.and_eq_true, optional_eq_true] at accepted
    obtain ⟨⟨⟨⟨⟨⟨has, -⟩, -⟩, position⟩, chain⟩, lambda⟩, -⟩ := accepted
    have named := named_of_hasFields has
    obtain ⟨source_eq, position_eq, members, literal⟩ := toStmt_eq_ok finished
    refine step fields st ⟨?_, ?_, position, ⟨s.chain, ?_, members⟩, chain, fun l same => ?_⟩
    · rw [source_eq]
      exact reads_part StmtSlots.source (fun _ _ => rfl) (by simp) named slots
    · rw [position_eq]
      exact reads_part StmtSlots.position (fun _ _ => rfl) (by simp) named slots
    · exact reads_part StmtSlots.chain (fun _ _ => rfl) (by simp) named slots
    · have part : Reads (readLambdaPart (readLambdaWithin depth)) none (valuesOf "lambda" fields) s.lambda :=
        reads_part StmtSlots.lambda (fun _ _ => by rw [storeStmtPart_lambda]; rfl) (by simp) named slots
      rw [literal l same] at part
      rcases part.of_field with ⟨-, absent⟩ | ⟨v, place, last, done⟩
      · contradiction
      · have checked := lambda v last
        cases v with
        | object inside =>
          exact ⟨inside, last, lambdaReading checked (readLambdaPart_eq done)
            fun w inner read fine => ih read fine⟩
        | _ => contradiction

/-- What every accepted statement has, given something that is handed down to the statements of its
function literal, holds at every level. -/
theorem nested_of_read {H : Json → Prop} {Q : Stmt → Prop}
    (inherits : ∀ fields inside vs, H (.object fields) →
      Schema.field? fields "lambda" = some (.object inside) →
      Schema.field? inside "body" = some (.array vs) → ∀ v ∈ vs, H v)
    (own : ∀ P fields st, H (.object fields) → StmtReading P fields st → Q st)
    {depth levels : Nat} (done : readStmtWithin depth v = .ok st)
    (accepted : Schema.isStmtWithin levels v = true) (start : H v) : ∀ inner ∈ st.nested, Q inner := by
  refine @read_induction st v (fun v st => H v → ∀ inner ∈ st.nested, Q inner)
    (fun fields st reading holds => ?_) depth levels done accepted start
  refine Stmt.forall_nested.mpr ⟨own _ fields st holds reading, fun l literal inner member => ?_⟩
  obtain ⟨inside, given, lambda⟩ := reading.lambda l literal
  obtain ⟨vs, body, w, source, nested⟩ := lambda.body inner member
  exact nested (inherits fields inside vs holds given body w source)

/-! ### Names -/

theorem readText_string {old new t : Text} (done : readText old (.string t) = ⟨new, false⟩) : new = t :=
  (congrArg Stored.value done).symm

theorem ne_nil_of_field {name : String} {old new : Text} {required : List String} {known : List String}
    (has : Schema.hasFields fields known required = true) (member : name ∈ required)
    (accepted : ∀ v, Schema.field? fields name = some v → Schema.isNonEmptyString v = true)
    (reads : Reads readText old (valuesOf name fields) new) : new ≠ [] := by
  obtain ⟨v, given⟩ := isSome_of_hasFields has member
  rcases reads.of_field with ⟨absent, -⟩ | ⟨w, place, last, done⟩
  · rw [given] at absent
    contradiction
  · have checked := accepted w last
    cases w with
    | string t =>
      rw [readText_string done]
      simpa [Schema.isNonEmptyString] using checked
    | _ => contradiction

theorem import_path_ne_nil {old i : Import} (accepted : Schema.isImport v = true)
    (done : readImport old v = ⟨i, false⟩) : i.path ≠ [] := by
  cases v with
  | object fields =>
    simp only [Schema.isImport, Bool.and_eq_true, optional_eq_true] at accepted
    obtain ⟨⟨has, -⟩, path⟩ := accepted
    exact ne_nil_of_field has (by simp) path
      (reads_part Import.path (fun _ _ => rfl) (by simp) (named_of_hasFields has) done)
  | _ => contradiction

theorem member_name_ne_nil {old m : MemberSlots} (accepted : Schema.isMember v = true)
    (done : readMember old v = ⟨m, false⟩) : m.name ≠ [] := by
  cases v with
  | object fields =>
    simp only [Schema.isMember, Bool.and_eq_true, optional_eq_true] at accepted
    obtain ⟨⟨has, name⟩, -⟩ := accepted
    exact ne_nil_of_field has (by simp) name
      (reads_part MemberSlots.name (fun _ _ => rfl) (by simp) (named_of_hasFields has) done)
  | _ => contradiction

theorem items_of_field {α : Type} {read : Reader α} {fresh : α} {name : String} {check : Json → Bool}
    {slots : Slots α} (reads : Reads (readSlots read fresh) {} (valuesOf name fields) slots)
    (accepted : ∀ v, Schema.field? fields name = some v → Schema.isListOf check v = true) :
    ∀ x ∈ slots.items.getD [], ∃ v place, check v = true ∧ read place v = ⟨x, false⟩ := by
  intro x member
  rcases reads.of_field with ⟨-, rfl⟩ | ⟨w, old, last, done⟩
  · contradiction
  · obtain ⟨vs, rfl, each⟩ := Schema.exists_items (accepted w last)
    obtain ⟨xs, items, origin, -⟩ := readSlots_array done
    rw [items, Option.getD_some] at member
    obtain ⟨v, source, place, -, done⟩ := origin x member
    exact ⟨v, place, each v source, done⟩

theorem members_named {P : Json → Stmt → Prop} (reading : StmtReading P fields st) :
    ∀ m ∈ st.chain, m.name ≠ [] := by
  intro m member
  obtain ⟨slots, reads, members⟩ := reading.chain
  obtain ⟨x, held, rfl⟩ := members m member
  obtain ⟨v, place, accepted, done⟩ := items_of_field reads reading.chainAccepted x held
  exact member_name_ne_nil accepted done

/-! ### Positions and type arguments -/

theorem count_of_field {name : String} {old n : Int} (start : 0 ≤ old)
    (accepted : ∀ v, Schema.field? fields name = some v → Schema.isCount v = true)
    (reads : Reads readInt old (valuesOf name fields) n) : 0 ≤ n := by
  rcases reads.of_field with ⟨-, rfl⟩ | ⟨v, place, last, done⟩
  · exact start
  · have checked := accepted v last
    cases v with
    | number literal =>
      rw [readInt] at done
      split at done
      · rename_i k read
        obtain rfl : k = n := congrArg Stored.value done
        exact (isCount_iff read).2.mp checked
      · exact absurd (congrArg Stored.mismatch done) (by simp)
    | _ => contradiction

theorem position_nonNegative {old p : Position} (accepted : Schema.isPosition v = true)
    (start : old.NonNegative) (done : readPosition old v = ⟨p, false⟩) : p.NonNegative := by
  cases v with
  | object fields =>
    simp only [Schema.isPosition, Bool.and_eq_true, optional_eq_true] at accepted
    obtain ⟨⟨⟨has, -⟩, line⟩, column⟩ := accepted
    have named := named_of_hasFields has
    exact ⟨count_of_field start.1 line (reads_part Position.line (fun _ _ => rfl) (by simp) named done),
      count_of_field start.2 column (reads_part Position.column (fun _ _ => rfl) (by simp) named done)⟩
  | _ => contradiction

theorem member_typeArgs_ne_nil {m : MemberSlots} (accepted : Schema.isMember v = true)
    (done : readMember {} v = ⟨m, false⟩) : ∀ t ∈ m.typeArgs.items.getD [], t ≠ [] := by
  cases v with
  | object fields =>
    simp only [Schema.isMember, Bool.and_eq_true, optional_eq_true] at accepted
    obtain ⟨⟨has, -⟩, typeArgs⟩ := accepted
    have reads : Reads (readSlots readText []) {} (valuesOf "type_args" fields) m.typeArgs :=
      reads_part MemberSlots.typeArgs (fun _ _ => rfl) (by simp) (named_of_hasFields has) done
    intro t member
    obtain ⟨w, place, checked, done⟩ := items_of_field reads typeArgs t member
    cases w with
    | string s =>
      rw [readText_string done]
      simpa [Schema.isNonEmptyString] using checked
    | _ => contradiction
  | _ => contradiction

/-! ### Fields given once -/

theorem mem_of_field {name : String} (given : Schema.field? fields name = some v) :
    ∃ f ∈ fields, f.2 = v := by
  rw [field_eq_getLast] at given
  exact mem_of_mem_valuesOf (List.mem_of_getLast? given)

theorem everyObject_field {check : List (Text × Json) → Bool} {name : String}
    (every : (Json.object fields).everyObject check = true)
    (given : Schema.field? fields name = some v) : v.everyObject check = true := by
  obtain ⟨f, member, rfl⟩ := mem_of_field given
  exact (Json.everyObject_object.mp every).2 f member

/-- Whether none of some names is given twice. -/
def givenOnce (names : List String) (fields : List (Text × Json)) : Bool :=
  names.all fun name => (valuesOf name fields).length ≤ 1

theorem length_le_of_givenOnce {names : List String} {name : String}
    (once : givenOnce names fields = true) (member : name ∈ names) : (valuesOf name fields).length ≤ 1 := by
  simpa using List.all_eq_true.mp once name member

theorem positioned_of_once {P : Json → Stmt → Prop} (reading : StmtReading P fields st)
    (once : givenOnce ["pos", "chain"] fields = true) :
    st.position.NonNegative ∧ ∀ m ∈ st.chain, ∀ t ∈ m.typeArgs, t ≠ [] := by
  constructor
  · rcases reading.position.of_single (length_le_of_givenOnce once (by simp)) with empty | ⟨v, given, done⟩
    · rw [empty]
      exact ⟨Int.le_refl 0, Int.le_refl 0⟩
    · exact position_nonNegative (reading.positionAccepted v given) ⟨Int.le_refl 0, Int.le_refl 0⟩ done
  · intro m member
    obtain ⟨slots, reads, members⟩ := reading.chain
    obtain ⟨x, held, rfl⟩ := members m member
    rcases reads.of_single (length_le_of_givenOnce once (by simp)) with rfl | ⟨v, given, done⟩
    · contradiction
    · obtain ⟨vs, rfl, each⟩ := Schema.exists_items (reading.chainAccepted v given)
      obtain ⟨xs, items, origin, -⟩ := readSlots_array done
      rw [items, Option.getD_some] at held
      obtain ⟨w, source, place, fresh, done⟩ := origin x held
      obtain rfl : place = {} := by simpa [Slots.held] using fresh
      exact member_typeArgs_ne_nil (each w source) done

/-! ### Methods and documents -/

/-- What is known of a method whose description was accepted and read. -/
structure MethodReading (fields : List (Text × Json)) (m : Method) : Prop where
  system : Reads readText [] (valuesOf "system" fields) m.system
  systemAccepted : ∃ v, Schema.field? fields "system" = some v ∧ Schema.isSystemName v = true
  package : Reads readText [] (valuesOf "package" fields) m.package
  receiver : Reads readText [] (valuesOf "receiver" fields) m.receiver
  imports : ∃ slots, m.imports = slots.items.getD [] ∧
    Reads (readSlots readImport ⟨[], []⟩) {} (valuesOf "imports" fields) slots
  importsAccepted : ∀ v, Schema.field? fields "imports" = some v →
    Schema.isListOf Schema.isImport v = true
  position : Reads readPosition {} (valuesOf "pos" fields) m.position
  positionAccepted : ∀ v, Schema.field? fields "pos" = some v → Schema.isPosition v = true
  body : ∀ st ∈ m.body, ∃ vs, Schema.field? fields "body" = some (.array vs) ∧
    ∃ v ∈ vs, readStmt v = .ok st ∧ Schema.isStmt v = true

theorem methodReading {m : Method} (accepted : Schema.isMethod v = true) (done : readMethod v = .ok m) :
    ∃ fields, v = .object fields ∧ MethodReading fields m := by
  cases v with
  | object fields =>
    simp only [Schema.isMethod, Bool.and_eq_true, optional_eq_true] at accepted
    obtain ⟨⟨⟨⟨⟨⟨has, system⟩, -⟩, -⟩, imports⟩, body⟩, position⟩ := accepted
    obtain ⟨s, slots, statements, system_eq, package_eq, receiver_eq, imports_eq, position_eq⟩ :=
      readMethod_eq_ok.mp done
    have named := named_of_hasFields has
    obtain ⟨name, given⟩ := isSome_of_hasFields has (List.mem_cons_self (a := "system"))
    have raw : Reads readRaw [] (valuesOf "body" fields) s.body :=
      reads_part MethodSlots.body (fun _ _ => rfl) (by simp) named slots
    refine ⟨fields, rfl, ?_, ⟨name, given, system name given⟩, ?_, ?_, ⟨s.imports, imports_eq, ?_⟩, imports,
      ?_, position, ?_⟩
    · rw [system_eq]
      exact reads_part MethodSlots.system (fun _ _ => rfl) (by simp) named slots
    · rw [package_eq]
      exact reads_part MethodSlots.package (fun _ _ => rfl) (by simp) named slots
    · rw [receiver_eq]
      exact reads_part MethodSlots.receiver (fun _ _ => rfl) (by simp) named slots
    · exact reads_part MethodSlots.imports (fun _ _ => rfl) (by simp) named slots
    · rw [position_eq]
      exact reads_part MethodSlots.position (fun _ _ => rfl) (by simp) named slots
    · exact statements_of_field raw (fun v given => Schema.isBody_cases (body v given)) statements
  | _ => contradiction

theorem named_of_reading {m : Method} (reading : MethodReading fields m) : m.Named := by
  refine ⟨?_, fun i listed => ?_, Stmt.forall_nestedIn.mpr fun st inner => ?_⟩
  · obtain ⟨name, last, checked⟩ := reading.systemAccepted
    rcases reading.system.of_field with ⟨absent, -⟩ | ⟨v, place, found, done⟩
    · rw [last] at absent
      contradiction
    · obtain rfl : name = v := Option.some.inj (last.symm.trans found)
      cases name with
      | string s =>
        rw [readText_string done]
        exact checked
      | _ => contradiction
  · obtain ⟨slots, items, reads⟩ := reading.imports
    rw [items] at listed
    obtain ⟨v, place, checked, done⟩ := items_of_field reads reading.importsAccepted i listed
    exact import_path_ne_nil checked done
  · obtain ⟨vs, -, v, -, done, checked⟩ := reading.body st inner
    exact nested_of_read (H := fun _ => True) (fun _ _ _ _ _ _ _ _ => trivial)
      (fun _ _ _ _ reading => members_named reading) done checked trivial

/-- Positions and type arguments are those that the schema looked at, where `pos` and `chain` are not
given twice. -/
theorem meets_of_once {m : Method} (reading : MethodReading fields m)
    (once : (Json.object fields).everyObject (givenOnce ["pos", "chain"]) = true) :
    m.position.NonNegative ∧ ∀ st ∈ Stmt.nestedIn m.body,
      st.position.NonNegative ∧ ∀ member ∈ st.chain, ∀ a ∈ member.typeArgs, a ≠ [] := by
  have own := (Json.everyObject_object.mp once).1
  refine ⟨?_, Stmt.forall_nestedIn.mpr fun st inner => ?_⟩
  · rcases reading.position.of_single (length_le_of_givenOnce own (by simp)) with
      empty | ⟨v, found, done⟩
    · rw [empty]
      exact ⟨Int.le_refl 0, Int.le_refl 0⟩
    · exact position_nonNegative (reading.positionAccepted v found)
        ⟨Int.le_refl 0, Int.le_refl 0⟩ done
  · obtain ⟨vs, found, v, source, done, checked⟩ := reading.body st inner
    have start := Json.everyObject_array.mp (everyObject_field once found) v source
    refine nested_of_read (H := fun v => v.everyObject (givenOnce ["pos", "chain"]) = true)
      (fun fields inside vs once lambda body => ?_)
      (fun _ fields _ once reading => positioned_of_once reading (Json.everyObject_object.mp once).1)
      done checked start
    exact Json.everyObject_array.mp (everyObject_field (everyObject_field once lambda) body)

theorem storeMethods_concat {before : List (Text × Json)} {name : Text} {vs : List Json}
    {s result : Stored (List Method)}
    (done : storeMethods s (before ++ [(name, .array vs)]) = .ok result) :
    readMethods vs = .ok result.value := by
  induction before generalizing s with
  | nil =>
    rw [List.nil_append, storeMethods] at done
    split at done
    · contradiction
    · rename_i ms read
      rw [storeMethods] at done
      rw [read, ← Except.ok.inj done]
  | cons f rest ih =>
    obtain ⟨key, v⟩ := f
    rw [List.cons_append] at done
    cases v with
    | array items =>
      rw [storeMethods] at done
      split at done
      · contradiction
      · exact ih done
    | null => exact ih done
    | bool | number | string | object => exact ih done

theorem parse_eq_some {t : Text} (parsed : parse? t = some v) : Json.parse? t = some v := by
  rw [parse?] at parsed
  split at parsed
  · rename_i w read
    split at parsed
    · rw [read, Option.some.inj parsed]
    · contradiction
  · contradiction

theorem store_eq_ok {ms : List Method} (accepted : Schema.accepts v = true) (done : store v = .ok ms) :
    ∃ fields vs, v = .object fields ∧ Schema.field? fields "methods" = some (.array vs) ∧
      ∀ m ∈ ms, ∃ inside, .object inside ∈ vs ∧ MethodReading inside m := by
  cases v with
  | object fields =>
    simp only [Schema.accepts, Bool.and_eq_true, optional_eq_true] at accepted
    obtain ⟨has, listed⟩ := accepted
    obtain ⟨list, last⟩ := isSome_of_hasFields has (List.mem_cons_self (a := "methods"))
    obtain ⟨vs, rfl, each⟩ := Schema.exists_items (listed list last)
    obtain ⟨before, name, rfl⟩ : ∃ before name, fields = before ++ [(name, .array vs)] := by
      have present : fields ≠ [] := by
        rintro rfl
        contradiction
      have split := List.dropLast_concat_getLast present
      obtain ⟨name, member, spelled⟩ := named_of_hasFields has _ (List.getLast_mem present)
      obtain rfl := List.mem_singleton.mp member
      refine ⟨fields.dropLast, (fields.getLast present).1, ?_⟩
      rw [← split, Schema.field?, List.reverse_append, List.reverse_singleton, List.singleton_append,
        List.find?_cons_of_pos (by simp [spelled]), Option.map_some] at last
      rw [← Option.some.inj last]
      exact split.symm
    have read : readMethods vs = .ok ms := by
      rw [store] at done
      cases stored : storeMethods ⟨[], false⟩ (before ++ [(name, .array vs)]) with
      | error e =>
        rw [stored] at done
        contradiction
      | ok result =>
        rw [stored] at done
        rw [storeMethods_concat stored, Stored.finish_eq_ok.mp done]
    refine ⟨_, vs, rfl, last, fun m member => ?_⟩
    have found : .ok m ∈ vs.map readMethod := by
      rw [readMethods_eq_ok.mp read]
      exact List.mem_map_of_mem member
    obtain ⟨w, source, done⟩ := List.mem_map.mp found
    obtain ⟨inside, rfl, reading⟩ := methodReading (each w source) done
    exact ⟨inside, source, reading⟩
  | _ => contradiction

/-- A text that is decoded is parsed, accepted and stored. -/
theorem decode_eq_ok {t : Text} {ms : List Method} :
    decode t = .ok ms ↔ ∃ v, parse? t = some v ∧ Schema.accepts v = true ∧ store v = .ok ms := by
  rw [decode]
  cases parse? t with
  | none => simp
  | some v =>
    cases accepted : Schema.accepts v with
    | false => simp [accepted]
    | true =>
      cases stored : store v with
      | error e => simp [accepted, stored]
      | ok methods => simp [accepted, stored]

theorem readings_of_decode {t : Text} {ms : List Method} (decoded : decode t = .ok ms) :
    ∃ fields vs, Json.parse? t = some (.object fields) ∧
      Schema.field? fields "methods" = some (.array vs) ∧
      ∀ m ∈ ms, ∃ inside, .object inside ∈ vs ∧ MethodReading inside m := by
  obtain ⟨v, parsed, accepted, stored⟩ := decode_eq_ok.mp decoded
  obtain ⟨fields, vs, rfl, given, each⟩ := store_eq_ok accepted stored
  exact ⟨fields, vs, parse_eq_some parsed, given, each⟩

/-! ### What decoding gives -/

theorem exists_chars_of_bytes {P : Char → Prop} {t : Text}
    (each : ∀ b ∈ t, ∃ c, Text.ofChar c = [b] ∧ P c) : ∃ cs, t = Text.ofChars cs ∧ ∀ c ∈ cs, P c := by
  induction t with
  | nil => exact ⟨[], rfl, nofun⟩
  | cons b rest ih =>
    obtain ⟨⟨c, byte, holds⟩, later⟩ := List.forall_mem_cons.mp each
    obtain ⟨cs, rfl, others⟩ := ih later
    refine ⟨c :: cs, ?_, List.forall_mem_cons.mpr ⟨holds, others⟩⟩
    rw [Text.ofChars, Text.ofChars, List.flatMap_cons, byte, List.singleton_append]

theorem letter_of_byte {b : UInt8} (letter :
    ((0x41 ≤ b && b ≤ 0x5A) || (0x61 ≤ b && b ≤ 0x7A) || b == 0x5F) = true) :
    ∃ c, Text.ofChar c = [b] ∧ (c.isAlpha = true ∨ c = '_') := by
  have bytes : ∀ n < 256, ((0x41 ≤ UInt8.ofNat n && UInt8.ofNat n ≤ 0x5A) ||
      (0x61 ≤ UInt8.ofNat n && UInt8.ofNat n ≤ 0x7A) || UInt8.ofNat n == 0x5F) = true →
      Text.ofChar (Char.ofNat n) = [UInt8.ofNat n] ∧
        ((Char.ofNat n).isAlpha = true ∨ Char.ofNat n = '_') := by decide +kernel
  have known := bytes b.toNat b.toNat_lt
  rw [UInt8.ofNat_toNat] at known
  exact ⟨Char.ofNat b.toNat, known letter⟩

theorem digit_of_byte {b : UInt8} (decimal : Text.isDecimal b = true) :
    ∃ c, Text.ofChar c = [b] ∧ c.isDigit = true := by
  have bytes : ∀ n < 256, Text.isDecimal (UInt8.ofNat n) = true →
      Text.ofChar (Char.ofNat n) = [UInt8.ofNat n] ∧ (Char.ofNat n).isDigit = true := by decide +kernel
  have known := bytes b.toNat b.toNat_lt
  rw [UInt8.ofNat_toNat] at known
  exact ⟨Char.ofNat b.toNat, known decimal⟩

theorem isName_of_accepted {t : Text} (accepted : Schema.isSystemName (.string t) = true) :
    t.IsName := by
  cases t with
  | nil => contradiction
  | cons b rest =>
    simp only [Schema.isSystemName, Bool.and_eq_true, List.all_eq_true] at accepted
    obtain ⟨start, others⟩ := accepted
    have each : ∀ b ∈ rest, ∃ c, Text.ofChar c = [b] ∧ (c.isAlphanum = true ∨ c = '_') := by
      intro b member
      rcases Bool.or_eq_true_iff.mp (others b member) with letter | decimal
      · obtain ⟨c, byte, alpha | underscore⟩ := letter_of_byte letter
        · exact ⟨c, byte, .inl (by rw [Char.isAlphanum, alpha, Bool.true_or])⟩
        · exact ⟨c, byte, .inr underscore⟩
      · obtain ⟨c, byte, digit⟩ := digit_of_byte decimal
        exact ⟨c, byte, .inl (by rw [Char.isAlphanum, digit, Bool.or_true])⟩
    obtain ⟨cs, rfl, every⟩ := exists_chars_of_bytes each
    obtain ⟨c, byte, named⟩ := letter_of_byte start
    refine ⟨c, cs, ?_, named, every⟩
    rw [Text.ofChars, Text.ofChars, List.flatMap_cons, byte, List.singleton_append]

/-- What decoding gives meets the schema: names and paths always, positions and type arguments where no
object gives `pos` or `chain` twice. -/
theorem decode_meets_schema {t : Text} {ms : List Method} (decoded : decode t = .ok ms) :
    (∀ m ∈ ms, m.system.IsName ∧ (∀ i ∈ m.imports, i.path ≠ []) ∧
      ∀ st ∈ Stmt.nestedIn m.body, ∀ member ∈ st.chain, member.name ≠ []) ∧
    ∀ v, Json.parse? t = some v → v.everyObject (givenOnce ["pos", "chain"]) = true →
      ∀ m ∈ ms, m.position.NonNegative ∧ ∀ st ∈ Stmt.nestedIn m.body,
        st.position.NonNegative ∧ ∀ member ∈ st.chain, ∀ a ∈ member.typeArgs, a ≠ [] := by
  obtain ⟨fields, vs, parsed, given, each⟩ := readings_of_decode decoded
  refine ⟨fun m member => ?_, fun v read once m member => ?_⟩
  · obtain ⟨inside, -, reading⟩ := each m member
    have named := named_of_reading reading
    exact ⟨isName_of_accepted named.system, named.imports, named.members⟩
  · obtain ⟨inside, source, reading⟩ := each m member
    rw [parsed] at read
    obtain rfl := Option.some.inj read
    exact meets_of_once reading (Json.everyObject_array.mp (everyObject_field once given) _ source)

/-- A method whose second `pos` says nothing about the line of the first, around a call whose second
`chain` says nothing about the type arguments of the first. -/
def merged : Json :=
  let member (name : String) (typeArgs : List Json) : Json :=
    .object (field "name" (.string name) ++ listField? "type_args" typeArgs)
  let call : Json := .object (field "kind" (.string "call") ++ field "src" (.string "x()")
    ++ field "chain" (.array [member "A" [.string []]]) ++ field "chain" (.array [member "B" []]))
  .object (field "methods" (.array [.object (field "system" (.string "S")
    ++ field "body" (.array [call]) ++ field "pos" (.object (field "line" (.ofInt (-5))))
    ++ field "pos" (.object []))]))

/-- Names are as the schema asks for, while the line is negative and the type argument empty. -/
theorem decode_meets_schema_merged :
    (∃ ms, decode merged.compact = .ok ms ∧ ∀ m ∈ ms, m.system.IsName) ∧
      (decode merged.compact).toOption.map (·.map fun m => (m.position.line, m.body.map Stmt.chain)) =
        some [(-5, [[⟨"B", [[]]⟩]])] ∧
      merged.everyObject (givenOnce ["pos", "chain"]) = false := by
  have kept : (decode merged.compact).toOption.map
      (·.map fun m => (m.position.line, m.body.map Stmt.chain)) = some [(-5, [[⟨"B", [[]]⟩]])] := by
    decide +kernel
  refine ⟨?_, kept, by decide +kernel⟩
  cases decoded : decode merged.compact with
  | error e =>
    rw [decoded] at kept
    contradiction
  | ok ms => exact ⟨ms, rfl, fun m member => ((decode_meets_schema decoded).1 m member).1⟩

end Document

end SystemLoops
