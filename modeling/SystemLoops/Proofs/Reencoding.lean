import SystemLoops.Proofs.DescriptionSchema

namespace SystemLoops

namespace Document

open Format

variable {α β : Type} {fields : List (Text × Json)} {st : Stmt} {v : Json}

/-! ### What is read is portable -/

/-- A value with well-formed texts, whatever its numbers. -/
abbrev Legible (v : Json) : Prop :=
  Json.Proper (fun _ => True) v

/-- Reading a legible value over a good one gives a good one. -/
def Keeps (read : Reader α) (good : α → Prop) : Prop :=
  ∀ v old new, Legible v → good old → read old v = ⟨new, false⟩ → good new

theorem keeps_text : Keeps readText (·.isValid = true) := by
  intro v old new legible start done
  cases legible with
  | string valid =>
    rw [readText_string done]
    exact valid
  | null =>
    obtain rfl : old = new := congrArg Stored.value done
    exact start
  | _ => exact absurd (congrArg Stored.mismatch done) (by simp [readText])

theorem keeps_int : Keeps readInt IsWord := by
  intro v old new _ start done
  cases v with
  | number literal =>
    rw [readInt] at done
    split at done
    · rename_i n read
      obtain rfl : n = new := congrArg Stored.value done
      exact (int64_eq_some read).1
    · exact absurd (congrArg Stored.mismatch done) (by simp)
  | null =>
    obtain rfl : old = new := congrArg Stored.value done
    exact start
  | _ => exact absurd (congrArg Stored.mismatch done) (by simp [readInt])

theorem keeps_slots {read : Reader α} {fresh : α} {good : α → Prop} (items : Keeps read good)
    (start : good fresh) : Keeps (readSlots read fresh) fun s => ∀ x ∈ s.held, good x := by
  intro v old new legible before done
  refine readSlots_keeps (fun vs listed w member old new kept read => ?_) start before done
  subst listed
  cases legible with
  | array each => exact items w old new (each w member) kept read

theorem keeps_fields {known : List String} {store : String → Reader α} {good : α → Prop}
    (each : ∀ k ∈ known, Keeps (store k) good) : Keeps (readFields known store) good := by
  intro v old new legible start done
  cases legible with
  | @object fields _ legible =>
    exact readFields_keeps (fun k known f member old new => each k known f.2 old new (legible f member))
      start done
  | null =>
    obtain rfl : old = new := congrArg Stored.value done
    exact start
  | _ => exact absurd (congrArg Stored.mismatch done) (by simp [readFields])

theorem keeps_part {read : Reader β} {store : Reader α} {get : α → β} {set : α → β → α}
    {good : α → Prop} {goodPart : β → Prop} (keeps : Keeps read goodPart)
    (part : ∀ old v, store old v = (read (get old) v).map (set old))
    (before : ∀ old, good old → goodPart (get old))
    (after : ∀ old x, good old → goodPart x → good (set old x)) : Keeps store good := by
  intro v old new legible start done
  rw [part] at done
  have value : set old (read (get old) v).value = new := congrArg Stored.value done
  have fine : (read (get old) v).mismatch = false := congrArg Stored.mismatch done
  rw [← value]
  refine after old _ start (keeps v _ _ legible (before old start) ?_)
  rw [← fine]

theorem keeps_position : Keeps readPosition Position.Portable := by
  refine keeps_fields ?_
  simp only [List.forall_mem_cons, List.not_mem_nil, false_imp_iff, implies_true, and_true]
  refine ⟨?_, ?_, ?_⟩
  · exact keeps_part keeps_text (fun _ _ => rfl) (fun _ start => start.file)
      fun _ _ start file => ⟨file, start.line, start.column⟩
  · exact keeps_part keeps_int (fun _ _ => rfl) (fun _ start => start.line)
      fun _ _ start line => ⟨start.file, line, start.column⟩
  · exact keeps_part keeps_int (fun _ _ => rfl) (fun _ start => start.column)
      fun _ _ start column => ⟨start.file, start.line, column⟩

theorem keeps_import : Keeps readImport fun i => i.name.isValid = true ∧ i.path.isValid = true := by
  refine keeps_fields ?_
  simp only [List.forall_mem_cons, List.not_mem_nil, false_imp_iff, implies_true, and_true]
  refine ⟨?_, ?_⟩
  · exact keeps_part keeps_text (fun _ _ => rfl) (fun _ start => start.1) fun _ _ start name =>
      ⟨name, start.2⟩
  · exact keeps_part keeps_text (fun _ _ => rfl) (fun _ start => start.2) fun _ _ start path =>
      ⟨start.1, path⟩

theorem keeps_param : Keeps readParam fun p => p.type.isValid = true ∧ p.name.isValid = true := by
  refine keeps_fields ?_
  simp only [List.forall_mem_cons, List.not_mem_nil, false_imp_iff, implies_true, and_true]
  refine ⟨?_, ?_⟩
  · exact keeps_part keeps_text (fun _ _ => rfl) (fun _ start => start.1) fun _ _ start type =>
      ⟨type, start.2⟩
  · exact keeps_part keeps_text (fun _ _ => rfl) (fun _ start => start.2) fun _ _ start name =>
      ⟨start.1, name⟩

theorem keeps_member : Keeps readMember fun m =>
    m.name.isValid = true ∧ ∀ t ∈ m.typeArgs.held, t.isValid = true := by
  refine keeps_fields ?_
  simp only [List.forall_mem_cons, List.not_mem_nil, false_imp_iff, implies_true, and_true]
  refine ⟨?_, ?_⟩
  · exact keeps_part keeps_text (fun _ _ => rfl) (fun _ start => start.1) fun _ _ start name =>
      ⟨name, start.2⟩
  · exact keeps_part (keeps_slots keeps_text rfl) (fun _ _ => rfl) (fun _ start => start.2)
      fun _ _ start typeArgs => ⟨start.1, typeArgs⟩

theorem good_of_reads {read : Reader α} {good : α → Prop} {name : String} {old new : α}
    (keeps : Keeps read good) (legible : Legible (.object fields)) (start : good old)
    (reads : Reads read old (valuesOf name fields) new) : good new := by
  refine reads.keeps (fun v member old new start done => ?_) start
  obtain ⟨f, given, rfl⟩ := mem_of_mem_valuesOf member
  cases legible with
  | object keys each => exact keeps f.2 old new (each f given) start done

theorem held_start {good : α → Prop} : ∀ x ∈ ({} : Slots α).held, good x :=
  nofun

theorem valid_of_reads {name : String} {t : Text} (legible : Legible (.object fields))
    (reads : Reads readText [] (valuesOf name fields) t) : t.isValid = true :=
  @good_of_reads _ fields readText (·.isValid = true) name [] t keeps_text legible rfl reads

theorem legible_field {name : String} (legible : Legible (.object fields))
    (given : Schema.field? fields name = some v) : Legible v := by
  obtain ⟨f, member, rfl⟩ := mem_of_field given
  cases legible with
  | object keys each => exact each f member

theorem legible_item {vs : List Json} (legible : Legible (.array vs)) (member : v ∈ vs) : Legible v := by
  cases legible with
  | array each => exact each v member

theorem portable_start : Position.Portable {} :=
  ⟨rfl, by decide, by decide⟩

theorem portable_of_reading {P : Json → Stmt → Prop} (legible : Legible (.object fields))
    (reading : StmtReading P fields st) : st.Portable := by
  refine ⟨valid_of_reads legible reading.source,
    good_of_reads keeps_position legible portable_start reading.position, fun m member => ?_,
    fun l literal p member => ?_⟩
  · obtain ⟨slots, reads, members⟩ := reading.chain
    obtain ⟨x, held, rfl⟩ := members m member
    have good := good_of_reads (keeps_slots keeps_member ⟨rfl, held_start⟩) legible held_start reads x
      (List.mem_append_left _ held)
    exact ⟨good.1, fun t listed => good.2 t (List.mem_append_left _ listed)⟩
  · obtain ⟨inside, given, lambda⟩ := reading.lambda l literal
    obtain ⟨slots, items, reads⟩ := lambda.params
    refine good_of_reads (keeps_slots keeps_param ⟨rfl, rfl⟩) (legible_field legible given) held_start reads p
      (List.mem_append_left _ ?_)
    rw [items]
    exact member

theorem portable_of_methodReading {m : Method} (legible : Legible (.object fields))
    (reading : MethodReading fields m) : m.Portable := by
  refine ⟨valid_of_reads legible reading.system,
    valid_of_reads legible reading.package,
    valid_of_reads legible reading.receiver, fun i member => ?_,
    good_of_reads keeps_position legible portable_start reading.position,
    Stmt.forall_nestedIn.mpr fun st inner => ?_⟩
  · obtain ⟨slots, items, reads⟩ := reading.imports
    rw [items] at member
    exact good_of_reads (keeps_slots keeps_import ⟨rfl, rfl⟩) legible held_start reads i
      (List.mem_append_left _ member)
  · obtain ⟨vs, given, v, source, done, checked⟩ := reading.body st inner
    refine nested_of_read (H := Legible) (fun fields inside vs legible lambda body v member => ?_)
      (fun _ fields st legible reading => portable_of_reading legible reading) done checked
      (legible_item (legible_field legible given) source)
    exact legible_item (legible_field (legible_field legible lambda) body) member

/-! ### Written again, it nests no deeper -/

theorem nesting_field {name : String} {n : Nat} (shallow : (Json.object fields).nesting ≤ n + 1)
    (given : Schema.field? fields name = some v) : v.nesting ≤ n := by
  obtain ⟨f, member, rfl⟩ := mem_of_field given
  exact Json.nesting_object_le.mp shallow f member

/-- Fields whose values nest at most so deep. -/
def Shallow (n : Nat) (fields : List (Text × Json)) : Prop :=
  ∀ f ∈ fields, f.2.nesting ≤ n

variable {n : Nat} {name : String} {others : List (Text × Json)}

theorem Shallow.append (first : Shallow n fields) (second : Shallow n others) :
    Shallow n (fields ++ others) :=
  List.forall_mem_append.mpr ⟨first, second⟩

theorem shallow_field (shallow : v.nesting ≤ n) : Shallow n (field name v) :=
  forall_mem_field shallow

theorem shallow_unless {skip : Prop} [Decidable skip] (shallow : ¬ skip → v.nesting ≤ n) :
    Shallow n (if skip then [] else field name v) :=
  forall_mem_unless shallow

theorem shallow_list {items : List Json} (shallow : items ≠ [] → (Json.array items).nesting ≤ n) :
    Shallow n (listField? name items) :=
  shallow_unless fun written => shallow fun empty => written (List.isEmpty_iff.mpr empty)

theorem nesting_object (shallow : Shallow n fields) : (Json.object fields).nesting ≤ n + 1 :=
  Json.nesting_object_le.mpr shallow

theorem nesting_ofPosition (p : Position) : (ofPosition p).nesting ≤ 1 :=
  nesting_object (((shallow_unless fun _ => Nat.le_refl 0).append
    (shallow_unless fun _ => Nat.le_refl 0)).append (shallow_unless fun _ => Nat.le_refl 0))

theorem nesting_ofMember {m : Member} (flat : n = 0 → m.typeArgs = []) : (ofMember m).nesting ≤ n + 1 := by
  refine nesting_object ((shallow_field (Nat.zero_le n)).append (shallow_list fun present => ?_))
  have deep : n ≠ 0 := fun zero => present (by rw [flat zero]; rfl)
  obtain ⟨k, rfl⟩ := Nat.exists_eq_succ_of_ne_zero deep
  exact Json.nesting_array_le.mpr (List.forall_mem_map.mpr fun t _ => Nat.zero_le k)

theorem nesting_ofParams {params : Option (List Param)} (flat : n = 0 → params.getD [] = []) :
    (ofParams params).nesting ≤ n + 1 := by
  cases params with
  | none => exact Nat.zero_le _
  | some ps =>
    refine Json.nesting_array_le.mpr (List.forall_mem_map.mpr fun p member => ?_)
    have deep : n ≠ 0 := fun zero => by
      rw [show ps = [] from flat zero] at member
      contradiction
    obtain ⟨k, rfl⟩ := Nat.exists_eq_succ_of_ne_zero deep
    exact nesting_object ((shallow_field (Nat.zero_le k)).append (shallow_field (Nat.zero_le k)))

/-- A description of one level holds no list, so no type arguments are read from it. -/
theorem typeArgs_of_flat_member {old new : MemberSlots} (flat : v.nesting ≤ 1)
    (start : old.typeArgs.held = []) (done : readMember old v = ⟨new, false⟩) :
    new.typeArgs.held = [] := by
  cases v with
  | object fields =>
    refine @readFields_keeps _ _ _ fields old new (fun m => m.typeArgs.held = [])
      (fun k known f member old new start done => ?_) start done
    have scalar := Json.nesting_object_le.mp flat f member
    have value := congrArg Stored.value done
    simp only [List.mem_cons, List.not_mem_nil, or_false] at known
    rcases known with rfl | rfl
    · obtain rfl : { old with name := (readText old.name f.2).value } = new := value
      exact start
    · obtain rfl : { old with typeArgs := (readSlots readText [] old.typeArgs f.2).value } = new := value
      cases given : f.2 with
      | array vs =>
        rw [given, Json.nesting] at scalar
        contradiction
      | null => rfl
      | _ => exact start
  | null =>
    obtain rfl : old = new := congrArg Stored.value done
    exact start
  | _ => exact absurd (congrArg Stored.mismatch done) (by simp [readMember, readFields])

theorem typeArgs_of_flat {P : Json → Stmt → Prop} (reading : StmtReading P fields st)
    (flat : (Json.object fields).nesting ≤ 3) : ∀ m ∈ st.chain, m.typeArgs = [] := by
  intro m member
  obtain ⟨slots, reads, members⟩ := reading.chain
  obtain ⟨x, held, rfl⟩ := members m member
  have every : ∀ x ∈ slots.held, x.typeArgs.held = [] := by
    refine @Reads.keeps _ _ _ _ _ (fun s => ∀ x ∈ s.held, x.typeArgs.held = []) reads
      (fun v given old new start done => ?_) nofun
    obtain ⟨f, written, rfl⟩ := mem_of_mem_valuesOf given
    have list := Json.nesting_object_le.mp flat f written
    refine readSlots_keeps (fun vs listed w item old new start done => ?_) rfl start done
    rw [listed] at list
    exact typeArgs_of_flat_member (Json.nesting_array_le.mp list w item) start done
  exact (List.append_eq_nil_iff.mp (every x (List.mem_append_left _ held))).1

theorem params_of_flat {P : Json → Stmt → Prop} {l : Lambda} (reading : LambdaReading P fields l)
    (flat : (Json.object fields).nesting ≤ 2) : l.params.getD [] = [] := by
  obtain ⟨slots, items, reads⟩ := reading.params
  rw [← items]
  rcases reads.of_field with ⟨-, rfl⟩ | ⟨v, place, given, done⟩
  · rfl
  · have list := nesting_field flat given
    have checked := reading.paramsAccepted v given
    cases v with
    | null =>
      obtain rfl : {} = slots := congrArg Stored.value done
      rfl
    | array vs =>
      have empty : vs = [] := by
        refine List.eq_nil_iff_forall_not_mem.mpr fun w member => ?_
        have scalar := Json.nesting_array_le.mp list w member
        have object := List.all_eq_true.mp checked w member
        cases w with
        | object => rw [Json.nesting] at scalar; contradiction
        | _ => contradiction
      subst empty
      obtain rfl := congrArg Stored.value done
      rfl
    | _ => contradiction

theorem nesting_lambda {params : Option (List Param)} {hasBody : Bool} {body : List Stmt}
    (flat : n = 0 → params.getD [] = []) (statements : ∀ inner ∈ body, (ofStmt inner).nesting ≤ n) :
    (Json.object (field "params" (ofParams params) ++ listField? "body" (ofStmts body)
      ++ field "has_body" (.bool hasBody))).nesting ≤ n + 2 := by
  refine nesting_object (((shallow_field (nesting_ofParams flat)).append (shallow_list fun _ => ?_)).append
    (shallow_field (Nat.zero_le _)))
  rw [ofStmts_eq_map]
  exact Json.nesting_array_le.mpr (List.forall_mem_map.mpr statements)

/-- The levels of a statement come in threes: the statement, its function literal and the body. A
position that is written anew takes the second level, so the last three have room for it. -/
theorem nesting_of_read {depth levels : Nat} (done : readStmtWithin depth v = .ok st)
    (accepted : Schema.isStmtWithin levels v = true) (shallow : v.nesting ≤ 3 * n) :
    (ofStmt st).nesting ≤ 3 * n := by
  refine @read_induction st v (fun v st => ∀ n, v.nesting ≤ 3 * n → (ofStmt st).nesting ≤ 3 * n)
    (fun fields st reading n shallow => ?_) depth levels done accepted n shallow
  obtain ⟨k, rfl⟩ : ∃ k, n = k + 1 := by
    rw [Json.nesting] at shallow
    exact ⟨n - 1, by omega⟩
  rw [Nat.mul_succ] at shallow ⊢
  have common (kind source : Text) (position : Position) :
      Shallow (3 * k + 2) (field "kind" (.string kind) ++ field "src" (.string source)
        ++ field "pos" (ofPosition position)) := by
    have placed := nesting_ofPosition position
    exact ((shallow_field (Nat.zero_le _)).append (shallow_field (Nat.zero_le _))).append
      (shallow_field (by omega))
  have members : Shallow (3 * k + 2) (listField? "chain" (st.chain.map ofMember)) := by
    refine shallow_list fun _ => Json.nesting_array_le.mpr (List.forall_mem_map.mpr fun m member => ?_)
    exact nesting_ofMember fun bottom => typeArgs_of_flat reading (by omega) m member
  cases st with
  | text source position => exact nesting_object (common "text" source position)
  | call source position chain => exact nesting_object ((common "call" source position).append members)
  | callWith source position chain params hasBody body =>
    obtain ⟨inside, given, literal⟩ := reading.lambda ⟨params, body, hasBody⟩ rfl
    have below : (Json.object inside).nesting ≤ 3 * k + 2 := nesting_field shallow given
    have flat : 3 * k = 0 → params.getD [] = [] := fun bottom => params_of_flat literal (by omega)
    have statements : ∀ inner ∈ body, (ofStmt inner).nesting ≤ 3 * k := by
      intro inner member
      obtain ⟨vs, list, w, source, nested⟩ := literal.body inner member
      exact nested k (Json.nesting_array_le.mp (nesting_field below list) w source)
    exact nesting_object (((common "call" source position).append members).append
      (shallow_field (nesting_lambda flat statements)))

/-- The body of a method starts two levels below it. -/
theorem nesting_of_methodReading {m : Method} (reading : MethodReading fields m)
    (shallow : (Json.object fields).nesting ≤ 3 * (n + 1) + 2) :
    (ofMethod m).nesting ≤ 3 * (n + 1) + 2 := by
  have statements : ∀ st ∈ m.body, (ofStmt st).nesting ≤ 3 * (n + 1) := by
    intro st member
    obtain ⟨vs, given, v, source, done, checked⟩ := reading.body st member
    exact nesting_of_read done checked (Json.nesting_array_le.mp (nesting_field shallow given) v source)
  have imports : (Json.array (m.imports.map ofImport)).nesting ≤ 3 * (n + 1) + 1 := by
    refine Json.nesting_array_le.mpr (List.forall_mem_map.mpr fun i _ => nesting_object ?_)
    exact (shallow_unless fun _ => Nat.zero_le (3 * n + 2)).append (shallow_field (Nat.zero_le _))
  have body : (if m.body.isEmpty then Json.null else .array (ofStmts m.body)).nesting ≤ 3 * (n + 1) + 1 := by
    split
    · exact Nat.zero_le _
    · rw [ofStmts_eq_map]
      exact Json.nesting_array_le.mpr (List.forall_mem_map.mpr statements)
  have placed := nesting_ofPosition m.position
  exact nesting_object ((((((shallow_field (Nat.zero_le _)).append
    (shallow_unless fun _ => Nat.zero_le _)).append (shallow_unless fun _ => Nat.zero_le _)).append
    (shallow_list fun _ => imports)).append (shallow_field body)).append (shallow_field (by omega)))

/-! ### What is written is parsed and stored -/

/-- The text of methods is parsed as their description, when they are portable and do not nest too
deep. -/
theorem parse_encode {ms : List Method} (portable : ∀ m ∈ ms, m.Portable)
    (shallow : ∀ m ∈ ms, (ofMethod m).nesting + 2 ≤ Json.Machine.maxNesting) :
    parse? (encode ms) = some (ofMethods ms) := by
  have proper : Json.Proper IsWordNumeral (ofMethods ms) :=
    proper_object (properFields_field (.array (List.forall_mem_map.mpr fun m member =>
      proper_ofMethod (portable m member))))
  have room : (ofMethods ms).nesting ≤ Json.Machine.maxNesting := by
    refine nesting_object (n := Json.Machine.maxNesting - 1) (shallow_field ?_)
    exact Json.nesting_array_le.mpr (List.forall_mem_map.mpr fun m member =>
      Nat.le_sub_of_add_le (shallow m member))
  have inRange : (ofMethods ms).allNumbers
      (fun literal => (Double.ofDecimal (Decimal.ofNumeral literal)).isSome) = true :=
    proper.allNumbers fun _ ⟨n, word, same⟩ => same ▸ (isCount_iff (int64_ofInt word)).1
  have read : Json.parse? (encode ms) = some (ofMethods ms) :=
    Json.parse_document (integers_of_proper proper) room
  rw [parse?, read]
  simp only [inRange, if_true]

theorem store_ofMethods {ms : List Method} (portable : ∀ m ∈ ms, m.Portable) :
    store (ofMethods ms) = .ok ms := by
  have read : readMethods (ms.map ofMethod) = .ok ms := by
    rw [readMethods_eq_ok, List.map_map]
    exact List.map_congr_left fun m member => readMethod_ofMethod (portable m member)
  rw [ofMethods, store, field, storeMethods, read]
  rfl

/-- What was decoded can be written, its names are as the schema asks for, and its text is parsed. -/
theorem parse_encode_of_decode {t : Text} {ms : List Method} (decoded : decode t = .ok ms) :
    (∀ m ∈ ms, m.Portable) ∧ (∀ m ∈ ms, m.Named) ∧ parse? (encode ms) = some (ofMethods ms) := by
  obtain ⟨fields, vs, parsed, given, each⟩ := readings_of_decode decoded
  obtain ⟨legible, shallow⟩ := Json.fits_of_parse parsed
  have portable : ∀ m ∈ ms, m.Portable := by
    intro m member
    obtain ⟨inside, source, reading⟩ := each m member
    exact portable_of_methodReading (legible_item (legible_field legible given) source) reading
  have named : ∀ m ∈ ms, m.Named := by
    intro m member
    obtain ⟨inside, -, reading⟩ := each m member
    exact named_of_reading reading
  refine ⟨portable, named, parse_encode portable fun m member => ?_⟩
  obtain ⟨inside, source, reading⟩ := each m member
  -- two levels around the methods, two around their statements, and the rest in threes
  have list : (Json.array vs).nesting ≤ 3 * (3331 + 1) + 2 + 1 :=
    nesting_field (Nat.zero_add (Json.nesting _) ▸ shallow) given
  exact Nat.add_le_add_right
    (nesting_of_methodReading reading (Json.nesting_array_le.mp list _ source)) 2

/-- Where `pos` and `chain` are not given twice, only a call without members is refused. -/
theorem acceptable_iff_of_once {m : Method} (reading : MethodReading fields m)
    (once : (Json.object fields).everyObject (givenOnce ["pos", "chain"]) = true) :
    m.Acceptable ↔ ∀ st ∈ Stmt.nestedIn m.body,
      (∃ source position, st = .text source position) ∨ st.chain ≠ [] := by
  obtain ⟨position, body⟩ := meets_of_once reading once
  constructor
  · intro acceptable st inner
    exact (acceptable.body st inner).chain
  · intro chains
    refine ⟨position, fun st inner => ?_⟩
    obtain ⟨own, typeArgs⟩ := body st inner
    exact ⟨own, typeArgs, chains st inner⟩

/-- Decoding what was decoded and written again: it is parsed and would be stored as the same methods,
so it gives them back exactly when the schema accepts it. Where no object gives `pos` or `chain` twice,
that is when every call has a member. -/
theorem decode_encode {t : Text} {ms : List Method} (decoded : decode t = .ok ms) :
    ((∀ m ∈ ms, m.Acceptable) → decode (encode ms) = .ok ms) ∧
    (¬ (∀ m ∈ ms, m.Acceptable) → decode (encode ms) = .error .schema) ∧
    ∀ v, Json.parse? t = some v → v.everyObject (givenOnce ["pos", "chain"]) = true →
      ((∀ m ∈ ms, m.Acceptable) ↔ ∀ m ∈ ms, ∀ st ∈ Stmt.nestedIn m.body,
        (∃ source position, st = .text source position) ∨ st.chain ≠ []) := by
  obtain ⟨portable, named, parsed⟩ := parse_encode_of_decode decoded
  have accepts := accepts_ofMethods portable named
  refine ⟨fun acceptable => ?_, fun refused => ?_, fun v read once => ?_⟩
  · exact decode_eq_ok.mpr ⟨_, parsed, accepts.mpr acceptable, store_ofMethods portable⟩
  · have unaccepted := Bool.eq_false_iff.mpr fun accepted => refused (accepts.mp accepted)
    rw [decode, parsed]
    simp only [unaccepted, Bool.not_false, if_true]
  · obtain ⟨fields, vs, source, given, each⟩ := readings_of_decode decoded
    rw [source] at read
    obtain rfl := Option.some.inj read
    have listed := Json.everyObject_array.mp (everyObject_field once given)
    refine forall_congr' fun m => imp_congr_right fun member => ?_
    obtain ⟨inside, found, reading⟩ := each m member
    exact acceptable_iff_of_once reading (listed _ found)

/-- A method around a call whose list of members is empty. -/
def memberless : Json :=
  .object (field "methods" (.array [.object (field "system" (.string "S")
    ++ field "body" (.array [.object (field "kind" (.string "call") ++ field "src" (.string "x()")
      ++ field "chain" (.array []))]))]))

/-- The empty list is left out when the call is written again, and the schema asks for it. -/
theorem decode_encode_memberless :
    ∃ ms, decode memberless.compact = .ok ms ∧ decode (encode ms) = .error .schema := by
  have known : (decode memberless.compact).toOption.map
      (fun ms => decide (∀ m ∈ ms, m.Acceptable)) = some false := by decide +kernel
  cases decoded : decode memberless.compact with
  | error e =>
    rw [decoded] at known
    contradiction
  | ok ms =>
    rw [decoded] at known
    exact ⟨ms, rfl, (decode_encode decoded).2.1 (of_decide_eq_false (Option.some.inj known))⟩

end Document

end SystemLoops
