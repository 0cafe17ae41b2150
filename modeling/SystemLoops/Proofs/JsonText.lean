import SystemLoops.Proofs.JsonTokens

namespace SystemLoops.Format.Json

mutual

/-- How deep arrays and objects are nested in a value. -/
def nesting : Json → Nat
  | .array items => nestings items + 1
  | .object fields => fieldNestings fields + 1
  | _ => 0

/-- The deepest nesting of several values. -/
def nestings : List Json → Nat
  | [] => 0
  | v :: rest => max v.nesting (nestings rest)

def fieldNestings : List (Text × Json) → Nat
  | [] => 0
  | (_, v) :: rest => max v.nesting (fieldNestings rest)

end

theorem nestings_le_iff {items : List Json} {n : Nat} :
    nestings items ≤ n ↔ ∀ v ∈ items, v.nesting ≤ n := by
  induction items with
  | nil => simp [nestings]
  | cons v rest ih => rw [nestings, Nat.max_le, ih, List.forall_mem_cons]

theorem fieldNestings_le_iff {fields : List (Text × Json)} {n : Nat} :
    fieldNestings fields ≤ n ↔ ∀ f ∈ fields, f.2.nesting ≤ n := by
  induction fields with
  | nil => simp [fieldNestings]
  | cons f rest ih => rw [fieldNestings, Nat.max_le, ih, List.forall_mem_cons]

theorem nesting_array_le {items : List Json} {n : Nat} :
    (array items).nesting ≤ n + 1 ↔ ∀ v ∈ items, v.nesting ≤ n := by
  rw [nesting, Nat.add_le_add_iff_right, nestings_le_iff]

theorem nesting_object_le {fields : List (Text × Json)} {n : Nat} :
    (object fields).nesting ≤ n + 1 ↔ ∀ f ∈ fields, f.2.nesting ≤ n := by
  rw [nesting, Nat.add_le_add_iff_right, fieldNestings_le_iff]

theorem exists_below {v : Json} {depth : Nat} (deep : v.height ≤ depth) :
    ∃ below, depth = below + 1 := by
  have positive : 0 < v.height := by
    cases v <;> simp [height]
  exact ⟨depth - 1, by omega⟩

theorem height_lt_array {items : List Json} {v : Json} (member : v ∈ items) :
    v.height < (array items).height := by
  rw [height, Nat.lt_succ_iff]
  induction items with
  | nil => contradiction
  | cons w rest ih =>
    rw [heights]
    rcases List.mem_cons.mp member with rfl | later
    · exact Nat.le_max_left _ _
    · exact Nat.le_trans (ih later) (Nat.le_max_right _ _)

theorem height_lt_object {fields : List (Text × Json)} {key : Text} {v : Json}
    (member : (key, v) ∈ fields) : v.height < (object fields).height := by
  rw [height, Nat.lt_succ_iff]
  induction fields with
  | nil => contradiction
  | cons g rest ih =>
    rw [fieldHeights]
    rcases List.mem_cons.mp member with rfl | later
    · exact Nat.le_max_left _ _
    · exact Nat.le_trans (ih later) (Nat.le_max_right _ _)

/-! ### What the machine makes of the tokens of a value -/

namespace Machine

variable {m : Machine} {v : Json} {below : List Frame} {result : Option Json}

/-- A value may come next. -/
def WantsValue (e : Expects) : Prop :=
  e = .value ∨ e = .valueOrEnd

/-- A field may come next. -/
def WantsField (e : Expects) : Prop :=
  e = .key ∨ e = .keyOrEnd

/-- The machine takes in a value through its tokens wherever the value may stand and is not too deep. -/
def Takes (v : Json) : Prop :=
  ∀ (m : Machine) (toks : List Tok), WantsValue m.expects →
    m.stack.length + v.nesting ≤ maxNesting →
    (v.tokens ++ toks).foldlM step m = toks.foldlM step (m.accept v)

theorem accept_expects (stack : List Frame) (e e' : Expects) (v : Json) :
    accept ⟨stack, e, result⟩ v = accept ⟨stack, e', result⟩ v := by
  match stack with
  | [] | .array _ :: _ | .object _ _ :: _ => rfl

theorem step_value (wants : WantsValue m.expects) (v : Json) :
    m.step (.value v) = some (m.accept v) := by
  rcases wants with e | e <;> simp only [step, e]

theorem step_openBracket (wants : WantsValue m.expects) (room : m.stack.length < maxNesting) :
    m.step .openBracket = some ⟨.array [] :: m.stack, .valueOrEnd, m.result⟩ := by
  rcases wants with e | e <;> simp only [step, e, push, room, if_true]

theorem step_openBrace (wants : WantsValue m.expects) (room : m.stack.length < maxNesting) :
    m.step .openBrace = some ⟨.object [] [] :: m.stack, .keyOrEnd, m.result⟩ := by
  rcases wants with e | e <;> simp only [step, e, push, room, if_true]

theorem step_key {fields : List (Text × Json)} {old : Text} {e : Expects} (wants : WantsField e)
    (key : Text) :
    step ⟨.object fields old :: below, e, result⟩ (.value (.string key)) =
      some ⟨.object fields key :: below, .colon, result⟩ := by
  rcases wants with rfl | rfl <;> rfl

theorem step_closeBracket (items : List Json) :
    step ⟨.array items :: below, .more, result⟩ .closeBracket =
      some (accept ⟨below, .more, result⟩ (.array items.reverse)) := rfl

theorem step_closeBrace (fields : List (Text × Json)) (key : Text) :
    step ⟨.object fields key :: below, .more, result⟩ .closeBrace =
      some (accept ⟨below, .more, result⟩ (.object fields.reverse)) := rfl

theorem takes_scalar (single : v.tokens = [.value v]) : Takes v := by
  intro m toks wants fits
  rw [single, List.singleton_append, List.foldlM_cons, step_value wants]
  rfl

theorem foldlM_items {items got : List Json} {e : Expects} (present : items ≠ [])
    (each : ∀ v ∈ items, Takes v) (wants : WantsValue e)
    (fits : ∀ v ∈ items, below.length + 1 + v.nesting ≤ maxNesting) (toks : List Tok) :
    (itemTokens items ++ toks).foldlM step ⟨.array got :: below, e, result⟩ =
      toks.foldlM step ⟨.array (items.reverse ++ got) :: below, .more, result⟩ := by
  induction items generalizing got e with
  | nil => contradiction
  | cons v rest ih =>
    have first (toks : List Tok) :
        (v.tokens ++ toks).foldlM step ⟨.array got :: below, e, result⟩ =
          toks.foldlM step ⟨.array (v :: got) :: below, .more, result⟩ :=
      each v List.mem_cons_self _ toks wants (fits v List.mem_cons_self)
    cases rest with
    | nil => exact first toks
    | cons w rest =>
      have others := @ih (v :: got) .value (List.cons_ne_nil w rest)
        (fun x member => each x (List.mem_cons_of_mem v member)) (.inl rfl)
        (fun x member => fits x (List.mem_cons_of_mem v member))
      have split : itemTokens (v :: w :: rest) = v.tokens ++ .comma :: itemTokens (w :: rest) := rfl
      rw [split, List.append_assoc, first, List.reverse_cons, List.append_assoc]
      exact others

/-- The fields of an object are added one by one. -/
theorem foldlM_fields {fields got : List (Text × Json)} {old : Text} {e : Expects}
    (present : fields ≠ []) (each : ∀ f ∈ fields, Takes f.2) (wants : WantsField e)
    (fits : ∀ f ∈ fields, below.length + 1 + f.2.nesting ≤ maxNesting) (toks : List Tok) :
    ∃ key, (fieldTokens fields ++ toks).foldlM step ⟨.object got old :: below, e, result⟩ =
      toks.foldlM step ⟨.object (fields.reverse ++ got) key :: below, .more, result⟩ := by
  induction fields generalizing got old e with
  | nil => contradiction
  | cons f rest ih =>
    obtain ⟨key, v⟩ := f
    have first (toks : List Tok) :
        (.value (.string key) :: .colon :: (v.tokens ++ toks)).foldlM step
            ⟨.object got old :: below, e, result⟩ =
          toks.foldlM step ⟨.object ((key, v) :: got) key :: below, .more, result⟩ := by
      rw [List.foldlM_cons, step_key wants]
      exact each (key, v) List.mem_cons_self ⟨.object got key :: below, .value, result⟩ toks (.inl rfl)
        (fits (key, v) List.mem_cons_self)
    cases rest with
    | nil => exact ⟨key, first toks⟩
    | cons g rest =>
      obtain ⟨last, others⟩ := @ih ((key, v) :: got) key .key
        (List.cons_ne_nil g rest) (fun x member => each x (List.mem_cons_of_mem (key, v) member))
        (.inl rfl) (fun x member => fits x (List.mem_cons_of_mem (key, v) member))
      refine ⟨last, ?_⟩
      have split : fieldTokens ((key, v) :: g :: rest) =
          .value (.string key) :: .colon :: (v.tokens ++ .comma :: fieldTokens (g :: rest)) := rfl
      rw [split, List.cons_append, List.cons_append, List.append_assoc, first, List.reverse_cons,
        List.append_assoc]
      exact others

/-- The machine takes in every value that is proper. -/
theorem takes_of_proper {numeral : Text → Prop} (proper : Proper numeral v) : Takes v := by
  induction proper with
  | null | bool | number | string => exact takes_scalar rfl
  | @array items each ih =>
    intro m toks wants fits
    have room : m.stack.length + 1 + nestings items ≤ maxNesting := by
      rw [nesting] at fits
      omega
    rw [tokens, List.cons_append, List.foldlM_cons, step_openBracket wants (by omega)]
    cases items with
    | nil => exact congrArg (toks.foldlM step) (accept_expects m.stack _ _ _)
    | cons v rest =>
      rw [Option.bind_eq_bind, Option.bind_some, List.append_assoc,
        foldlM_items (List.cons_ne_nil v rest) ih (.inr rfl) fun w member => ?_]
      · rw [List.append_nil, List.singleton_append, List.foldlM_cons, step_closeBracket,
          List.reverse_reverse, accept_expects m.stack _ m.expects]
        rfl
      · have deep := nestings_le_iff.mp (Nat.le_refl _) w member
        omega
  | @object fields keys each ih =>
    intro m toks wants fits
    have room : m.stack.length + 1 + fieldNestings fields ≤ maxNesting := by
      rw [nesting] at fits
      omega
    rw [tokens, List.cons_append, List.foldlM_cons, step_openBrace wants (by omega)]
    cases fields with
    | nil => exact congrArg (toks.foldlM step) (accept_expects m.stack _ _ _)
    | cons f rest =>
      have inside : ∀ g ∈ f :: rest, m.stack.length + 1 + g.2.nesting ≤ maxNesting := by
        intro g member
        have deep := fieldNestings_le_iff.mp (Nat.le_refl _) g member
        omega
      obtain ⟨key, read⟩ := @foldlM_fields m.stack m.result (f :: rest) [] [] .keyOrEnd
        (List.cons_ne_nil f rest) ih (.inr rfl) inside (.closeBrace :: toks)
      rw [Option.bind_eq_bind, Option.bind_some, List.append_assoc, List.singleton_append, read,
        List.append_nil, List.foldlM_cons, step_closeBrace, List.reverse_reverse,
        accept_expects m.stack _ m.expects]
      rfl

end Machine

theorem parse_of_spells {numeral : Text → Prop} {t : Text} {v : Json} (proper : Proper numeral v)
    (shallow : v.nesting ≤ Machine.maxNesting) (written : Spells t v.tokens []) : parse? t = some v := by
  have toks : tokensFrom? 0 t = some (v.tokens ++ []) := written
  have read := Machine.takes_of_proper proper {} [] (.inl rfl) (by simpa using shallow)
  rw [parse?, toks, Option.bind_eq_bind, Option.bind_some, read]
  rfl

/-- A value is read back from its text without blanks. -/
theorem parse_compact {v : Json} (proper : Proper IsInteger v)
    (shallow : v.nesting ≤ Machine.maxNesting) : parse? v.compact = some v :=
  parse_of_spells proper shallow (spells_compactOnto proper rfl)

theorem parse_document {v : Json} (proper : Proper IsInteger v)
    (shallow : v.nesting ≤ Machine.maxNesting) : parse? v.document = some v := by
  have last : Spells [Text.newline] [] [] := spells_blank rfl
  have written := (spells_indentedOnto proper 0 rfl).trans last
  rw [List.append_nil] at written
  exact parse_of_spells proper shallow written

/-! ### What the machine reads from any text -/

/-- A value with well-formed texts that may stand inside `depth` arrays and objects. -/
structure Fits (depth : Nat) (v : Json) : Prop where
  proper : Proper (fun _ => True) v
  shallow : depth + v.nesting ≤ Machine.maxNesting

/-- A token whose value is neither an array nor an object and has well-formed texts. -/
def Tok.IsPlain (tok : Tok) : Prop :=
  ∀ v, tok = .value v → Proper (fun _ => True) v ∧ v.nesting = 0

theorem token_isPlain {b : UInt8} {rest : Text} {tok : Tok} {width : Nat}
    (read : token? b rest = some (tok, width)) : tok.IsPlain := by
  rintro v rfl
  revert read
  fun_cases token? b rest with
  | case7 =>
    intro read
    obtain ⟨⟨cs, n⟩, -, same⟩ := Option.map_eq_some_iff.mp read
    simp only [Prod.mk.injEq, Tok.value.injEq] at same
    rw [← same.1]
    exact ⟨.string (Text.isValid_ofChars cs), rfl⟩
  | case11 =>
    intro read
    obtain ⟨n, -, same⟩ := Option.map_eq_some_iff.mp read
    simp only [Prod.mk.injEq, Tok.value.injEq] at same
    rw [← same.1]
    exact ⟨.number trivial, rfl⟩
  | case1 | case2 | case3 | case4 | case5 | case6 => simp
  | case8 | case9 | case10 =>
    intro read
    simp only [Option.some.injEq, Prod.mk.injEq, Tok.value.injEq] at read
    rw [← read.1]
    exact ⟨by constructor, rfl⟩

theorem tokens_arePlain {t : Text} {skip : Nat} {toks : List Tok}
    (read : tokensFrom? skip t = some toks) : ∀ tok ∈ toks, tok.IsPlain := by
  fun_induction tokensFrom? skip t generalizing toks with
  | case1 =>
    rw [← Option.some.inj read]
    simp
  | case2 skip b rest ih => exact ih read
  | case3 b rest blank ih => exact ih read
  | case4 => contradiction
  | case5 b rest dark tok width token ih =>
    obtain ⟨others, rest_read, rfl⟩ := Option.map_eq_some_iff.mp read
    exact List.forall_mem_cons.mpr ⟨token_isPlain token, ih rest_read⟩

namespace Machine

/-- The open arrays and objects hold what may stand at their depth. -/
inductive SoundStack : List Frame → Prop where
  | bottom : SoundStack []
  | array {items : List Json} {below : List Frame} (sound : SoundStack below)
      (room : below.length < maxNesting) (each : ∀ v ∈ items, Fits (below.length + 1) v) :
      SoundStack (.array items :: below)
  | object {fields : List (Text × Json)} {key : Text} {below : List Frame}
      (sound : SoundStack below) (room : below.length < maxNesting) (valid : key.isValid = true)
      (keys : ∀ f ∈ fields, f.1.isValid = true) (each : ∀ f ∈ fields, Fits (below.length + 1) f.2) :
      SoundStack (.object fields key :: below)

/-- What the machine holds so far is not too deep, and its texts are well formed. -/
structure Sound (m : Machine) : Prop where
  stack : SoundStack m.stack
  result : ∀ v ∈ m.result, Fits 0 v

variable {m m' : Machine} {v : Json}

theorem SoundStack.length_le {stack : List Frame} (sound : SoundStack stack) :
    stack.length ≤ maxNesting := by
  cases sound with
  | bottom => exact Nat.zero_le _
  | array _ room _ => exact room
  | object _ room _ _ _ => exact room

theorem Sound.accept (sound : m.Sound) (fits : Fits m.stack.length v) : (m.accept v).Sound := by
  obtain ⟨stack, e, result⟩ := m
  obtain ⟨frames, known⟩ := sound
  cases frames with
  | bottom => exact ⟨.bottom, fun w same => Option.some.inj same ▸ fits⟩
  | array below room each => exact ⟨.array below room (List.forall_mem_cons.mpr ⟨fits, each⟩), known⟩
  | object below room valid keys each =>
    exact ⟨.object below room valid (List.forall_mem_cons.mpr ⟨valid, keys⟩)
      (List.forall_mem_cons.mpr ⟨fits, each⟩), known⟩

theorem Sound.close (sound : m.Sound) (closed : m.close = some m') : m'.Sound := by
  obtain ⟨stack, e, result⟩ := m
  obtain ⟨frames, known⟩ := sound
  cases frames with
  | bottom => contradiction
  | @array items below sound room each =>
    rw [← Option.some.inj closed]
    refine Sound.accept ⟨sound, known⟩ ⟨.array fun v member => ?_, ?_⟩
    · exact (each v (List.mem_reverse.mp member)).proper
    · have deep : (Json.array items.reverse).nesting ≤ maxNesting - below.length - 1 + 1 := by
        refine nesting_array_le.mpr fun v member => ?_
        have shallow := (each v (List.mem_reverse.mp member)).shallow
        omega
      simp only
      omega
  | @object fields key below sound room valid keys each =>
    rw [← Option.some.inj closed]
    refine Sound.accept ⟨sound, known⟩ ⟨.object (fun f member => ?_) fun f member => ?_, ?_⟩
    · exact keys f (List.mem_reverse.mp member)
    · exact (each f (List.mem_reverse.mp member)).proper
    · have deep : (Json.object fields.reverse).nesting ≤ maxNesting - below.length - 1 + 1 := by
        refine nesting_object_le.mpr fun f member => ?_
        have shallow := (each f (List.mem_reverse.mp member)).shallow
        omega
      simp only
      omega

theorem Sound.push {frame : Frame} {e : Expects} (sound : m.Sound)
    (pushed : m.push frame e = some m') (fresh : m.stack.length < maxNesting → SoundStack (frame :: m.stack)) :
    m'.Sound := by
  rw [Machine.push] at pushed
  split at pushed
  · rename_i room
    rw [← Option.some.inj pushed]
    exact ⟨fresh room, sound.result⟩
  · contradiction

theorem Sound.expect (sound : m.Sound) (e : Expects) : Sound { m with expects := e } :=
  ⟨sound.stack, sound.result⟩

theorem Sound.setKey {fields : List (Text × Json)} {old key : Text} {below : List Frame}
    (sound : m.Sound) (frames : m.stack = .object fields old :: below) (valid : key.isValid = true) :
    Sound { m with stack := .object fields key :: below, expects := .colon } := by
  have stack := sound.stack
  rw [frames] at stack
  cases stack with
  | object below room _ keys each => exact ⟨.object below room valid keys each, sound.result⟩

/-- One token keeps the machine sound. -/
theorem Sound.step {tok : Tok} (sound : m.Sound) (plain : tok.IsPlain) (read : m.step tok = some m') :
    m'.Sound := by
  have string_valid (key : Text) (same : tok = .value (.string key)) : key.isValid = true := by
    obtain ⟨proper, -⟩ := plain _ same
    cases proper with
    | string valid => exact valid
  revert read
  fun_cases Machine.step m tok with
  | case1 v | case2 v =>
    intro read
    obtain ⟨proper, flat⟩ := plain v rfl
    rw [← Option.some.inj read]
    exact sound.accept ⟨proper, by rw [flat]; exact sound.stack.length_le⟩
  | case3 | case4 =>
    intro read
    exact sound.push read fun room => .object sound.stack room rfl (by simp) (by simp)
  | case5 | case6 =>
    intro read
    exact sound.push read fun room => .array sound.stack room (by simp)
  | case7 | case8 | case10 | case13 => exact sound.close
  | case9 | case11 | case15 | case17 | case19 => nofun
  | case12 | case18 =>
    intro read
    rw [← Option.some.inj read]
    exact sound.expect _
  | case14 key _ fields old below frames | case16 key _ fields old below frames =>
    intro read
    rw [← Option.some.inj read]
    exact sound.setKey frames (string_valid key rfl)

theorem Sound.foldlM {toks : List Tok} (sound : m.Sound) (plain : ∀ tok ∈ toks, tok.IsPlain)
    (read : toks.foldlM Machine.step m = some m') : m'.Sound := by
  induction toks generalizing m with
  | nil =>
    rw [← Option.some.inj read]
    exact sound
  | cons tok rest ih =>
    obtain ⟨first, others⟩ := List.forall_mem_cons.mp plain
    rw [List.foldlM_cons] at read
    obtain ⟨next, stepped, read⟩ := Option.bind_eq_some_iff.mp read
    exact ih (sound.step first stepped) others read

end Machine

/-- What is read from a text has well-formed texts and does not nest too deep. -/
theorem fits_of_parse {t : Text} {v : Json} (read : parse? t = some v) : Fits 0 v := by
  obtain ⟨toks, cut, read⟩ := Option.bind_eq_some_iff.mp read
  obtain ⟨m, run, result⟩ := Option.bind_eq_some_iff.mp read
  have start : Machine.Sound {} := ⟨.bottom, nofun⟩
  exact (start.foldlM (tokens_arePlain cut) run).result v result

end SystemLoops.Format.Json
