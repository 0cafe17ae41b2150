import SystemLoops.Format.JsonParse
import SystemLoops.Proofs.Digits

namespace SystemLoops.Format.Json

variable {b : UInt8} {c : Char} {tok : Tok} {piece tail behind : Text} {v : Json}

/-! ### One token -/

theorem tokensFrom_append (tail rest : Text) :
    tokensFrom? tail.length (tail ++ rest) = tokensFrom? 0 rest := by
  induction tail with
  | nil =>
    cases rest <;> rfl
  | cons b tail ih => exact ih

/-- A text reads as some tokens, and then as what is behind them. -/
def Spells (written : Text) (toks : List Tok) (behind : Text) : Prop :=
  tokensFrom? 0 written = (tokensFrom? 0 behind).map (toks ++ ·)

theorem Spells.trans {first second third : Text} {toks more : List Tok}
    (front : Spells first toks second) (back : Spells second more third) :
    Spells first (toks ++ more) third := by
  rw [Spells, front, back, Option.map_map]
  congr 1
  funext rest
  simp only [Function.comp_apply, List.append_assoc]

theorem spells_blank (blank : isBlank b = true) : Spells (b :: behind) [] behind := by
  rw [Spells, tokensFrom?, if_pos blank]
  cases tokensFrom? 0 behind <;> rfl

theorem spells_of_token (dark : isBlank b = false)
    (read : token? b (tail ++ behind) = some (tok, tail.length + 1)) :
    Spells (b :: tail ++ behind) [tok] behind := by
  rw [Spells, List.cons_append, tokensFrom?, if_neg (by simp [dark]), read]
  simp only [Nat.add_sub_cancel, tokensFrom_append]
  rfl

theorem spells_byte (dark : isBlank b = false) (read : token? b behind = some (tok, 1)) :
    Spells (b :: behind) [tok] behind :=
  @spells_of_token b tok [] behind dark read

theorem spells_openBrace : Spells (0x7B :: behind) [.openBrace] behind := spells_byte rfl rfl

theorem spells_closeBrace : Spells (0x7D :: behind) [.closeBrace] behind := spells_byte rfl rfl

theorem spells_openBracket : Spells (0x5B :: behind) [.openBracket] behind := spells_byte rfl rfl

theorem spells_closeBracket : Spells (0x5D :: behind) [.closeBracket] behind := spells_byte rfl rfl

theorem spells_colon : Spells (0x3A :: behind) [.colon] behind := spells_byte rfl rfl

theorem spells_comma : Spells (0x2C :: behind) [.comma] behind := spells_byte rfl rfl

/-! ### Words -/

theorem letters_true : Text.ofString "true" = [0x74, 0x72, 0x75, 0x65] := by decide

theorem letters_false : Text.ofString "false" = [0x66, 0x61, 0x6C, 0x73, 0x65] := by decide

theorem letters_null : Text.ofString "null" = [0x6E, 0x75, 0x6C, 0x6C] := by decide

theorem spells_null : Spells ("null" ++ behind) [.value .null] behind := by
  rw [letters_null]
  refine spells_of_token rfl ?_
  simp [token?, letters_true, letters_false, letters_null]

theorem spells_bool (truth : Bool) :
    Spells ((if truth then "true" else "false") ++ behind) [.value (.bool truth)] behind := by
  cases truth with
  | false =>
    simp only [Bool.false_eq_true, if_false, letters_false]
    refine spells_of_token rfl ?_
    simp [token?, letters_true, letters_false]
  | true =>
    simp only [if_true, letters_true]
    refine spells_of_token rfl ?_
    simp [token?, letters_true]

/-! ### Strings -/

theorem stringBody_append (tail rest : Text) :
    stringBody? tail.length (tail ++ rest) =
      (stringBody? 0 rest).map fun (cs, n) => (cs, n + tail.length) := by
  induction tail with
  | nil =>
    rw [List.nil_append, List.length_nil]
    cases stringBody? 0 rest <;> rfl
  | cons b tail ih =>
    rw [List.cons_append, List.length_cons, stringBody?, ih]
    cases stringBody? 0 rest <;> rfl

/-- A piece of a string literal stands for a character, whatever follows it. -/
def StandsFor (piece : Text) (c : Char) : Prop :=
  ∀ rest, stringBody? 0 (piece ++ rest) =
    (stringBody? 0 rest).map fun (cs, n) => (c :: cs, n + piece.length)

theorem standsFor_escape (read : ∀ rest, unescape? (piece ++ rest) = some (c, piece.length)) :
    StandsFor (0x5C :: piece) c := by
  intro rest
  have dark : ((0x5C : UInt8) == 0x22) = false := rfl
  have visible : ¬ (0x5C : UInt8) < 0x20 := by decide
  rw [List.cons_append, stringBody?]
  simp only [dark, visible, Bool.false_eq_true, if_false, beq_self_eq_true, if_true, read,
    Option.bind_eq_bind, Option.bind_some, stringBody_append]
  cases stringBody? 0 rest <;> rfl

theorem standsFor_char (plain : ∀ b ∈ Text.ofChar c, b ≠ 0x22 ∧ ¬ b < 0x20 ∧ b ≠ 0x5C) :
    StandsFor (Text.ofChar c) c := by
  intro rest
  obtain ⟨b, tail, bytes, reads⟩ := Text.decode_ofChar c
  obtain ⟨unquoted, visible, unescaped⟩ := plain b (bytes ▸ List.mem_cons_self)
  rw [bytes, List.cons_append, stringBody?]
  simp only [beq_false_of_ne unquoted, visible, beq_false_of_ne unescaped, Bool.false_eq_true,
    if_false, reads, Nat.add_sub_cancel, Option.bind_eq_bind, stringBody_append]
  cases stringBody? 0 rest <;> rfl

theorem hex4_hexPadded {n : Nat} (fits : n < 0x10000) (rest : Text) :
    hex4? (Text.hexPadded 4 n ++ rest) = some n := by
  have digits : Text.hexPadded 4 n = [Text.hexDigit (n / 16 / 16 / 16), Text.hexDigit (n / 16 / 16 % 16),
      Text.hexDigit (n / 16 % 16), Text.hexDigit (n % 16)] := by
    rw [Text.hexPadded_succ, Text.hexPadded_succ, Text.hexPadded_succ, Text.hexPadded_one (by omega)]
    rfl
  rw [digits]
  simp only [List.cons_append, hex4?, Text.hexValue_hexDigit (show n / 16 / 16 / 16 < 16 by omega),
    Text.hexValue_hexDigit (Nat.mod_lt _ (show 16 > 0 by decide)), Option.bind_eq_bind,
    Option.bind_some, Option.some.injEq]
  omega

theorem unescape_hex (fits : c.toNat < 0x10000) (rest : Text) :
    unescape? (0x75 :: Text.hexPadded 4 c.toNat ++ rest) =
      some (c, (0x75 :: Text.hexPadded 4 c.toNat).length) := by
  have width : (Text.hexPadded 4 c.toNat).length = 4 := Text.length_hexPadded fits
  have scalar : c.toNat < 0xD800 ∨ 0xDFFF < c.toNat ∧ c.toNat < 0x110000 := c.valid
  have single : ¬ (0xD800 ≤ c.toNat ∧ c.toNat < 0xE000) := by omega
  simp [unescape?, hex4_hexPadded fits, width, single]

theorem char_eq {n : Nat} (same : (c.toNat == n) = true) : c = Char.ofNat n := by
  rw [← beq_iff_eq.mp same, Char.ofNat_toNat]

theorem standsFor_letter {literal : String} (letter : UInt8) (spelled : literal = [0x5C, letter])
    (read : ∀ rest, unescape? (letter :: rest) = some (c, 1)) : StandsFor literal c := by
  rw [spelled]
  exact standsFor_escape read

theorem standsFor_escapeChar (c : Char) : StandsFor (escapeChar c) c := by
  unfold escapeChar
  simp only
  split
  · rename_i mark
    rcases Bool.or_eq_true_iff.mp mark with same | same
    · obtain rfl := char_eq same
      exact standsFor_escape fun rest => rfl
    · obtain rfl := char_eq same
      exact standsFor_escape fun rest => rfl
  · rename_i unmarked
    split
    · rename_i same
      obtain rfl := char_eq same
      exact standsFor_letter 0x62 (by decide) fun rest => rfl
    · split
      · rename_i same
        obtain rfl := char_eq same
        exact standsFor_letter 0x66 (by decide) fun rest => rfl
      · split
        · rename_i same
          obtain rfl := char_eq same
          exact standsFor_letter 0x6E (by decide) fun rest => rfl
        · split
          · rename_i same
            obtain rfl := char_eq same
            exact standsFor_letter 0x72 (by decide) fun rest => rfl
          · split
            · rename_i same
              obtain rfl := char_eq same
              exact standsFor_letter 0x74 (by decide) fun rest => rfl
            · split
              · rename_i special
                have lead : Text.ofString "\\u" = [0x5C, 0x75] := by decide
                simp only [Bool.or_eq_true, decide_eq_true_eq, beq_iff_eq] at special
                rw [lead]
                exact standsFor_escape (unescape_hex (by omega))
              · rename_i ordinary
                simp only [Bool.or_eq_true, decide_eq_true_eq, beq_iff_eq, not_or] at unmarked ordinary
                refine standsFor_char fun b member => ?_
                have bytes := Text.mem_ofChar member
                simp only [ne_eq, ← UInt8.toNat_inj, UInt8.lt_iff_toNat_lt, UInt8.reduceToNat]
                omega

theorem stringBody_escaped (cs : List Char) (rest : Text) :
    stringBody? 0 (cs.flatMap escapeChar ++ 0x22 :: rest) =
      some (cs, (cs.flatMap escapeChar).length + 1) := by
  induction cs with
  | nil => rfl
  | cons c cs ih =>
    rw [List.flatMap_cons, List.append_assoc, standsFor_escapeChar c, ih, List.length_append]
    simp only [Option.map_some, Option.some.injEq, Prod.mk.injEq, true_and]
    omega

theorem quote_ofChars (cs : List Char) :
    quote (Text.ofChars cs) = 0x22 :: (cs.flatMap escapeChar ++ [0x22]) := by
  rw [quote, Text.runes_ofChars, List.flatMap_map]
  simp only [escapeRune, Text.wellFormed_ofChar, if_true]
  rfl

/-- A well-formed text is read from its literal. -/
theorem spells_quote {t : Text} (valid : t.isValid = true) :
    Spells (quote t ++ behind) [.value (.string t)] behind := by
  obtain ⟨cs, rfl⟩ := Text.exists_chars valid
  rw [quote_ofChars]
  refine spells_of_token rfl ?_
  have body := stringBody_escaped cs behind
  simp [token?, body]

/-! ### Numerals -/

/-- Whether a text that follows a numeral does not continue it. -/
def stops : Text → Bool
  | [] => true
  | b :: _ => !(Text.isDecimal b || b == 0x2E || b == 0x65 || b == 0x45)

theorem digits_append {ds : Text} (decimal : ∀ b ∈ ds, Text.isDecimal b = true)
    (ends : stops behind = true) : digits (ds ++ behind) = ds := by
  have none_behind : behind.takeWhile Text.isDecimal = [] := by
    cases behind with
    | nil => rfl
    | cons b rest =>
      simp only [stops, Bool.not_eq_true', Bool.or_eq_false_iff] at ends
      rw [List.takeWhile_cons_of_neg (by simp [ends])]
  rw [digits, List.takeWhile_append_of_pos decimal, none_behind, List.append_nil]

theorem not_continued (ends : stops behind = true) :
    (behind.head? == some 0x2E) = false ∧ (behind.head? == some 0x65) = false ∧
      (behind.head? == some 0x45) = false := by
  cases behind with
  | nil => exact ⟨rfl, rfl, rfl⟩
  | cons b rest =>
    simp only [stops, Bool.not_eq_true', Bool.or_eq_false_iff] at ends
    exact ⟨ends.1.1.2, ends.1.2, ends.2⟩

theorem head_ofNat_append (n : Nat) (behind : Text) :
    (Text.ofNat n ++ behind).head? = (Text.ofNat n).head? := by
  rw [List.head?_append, Option.or_of_isSome (by simp [Text.ofNat_ne_nil])]

/-- The digits of a whole number are taken as they stand, since only zero starts with a zero. -/
theorem wholeWidth_ofNat (n : Nat) (ends : stops behind = true) :
    (if (Text.ofNat n ++ behind).head? == some 0x30 then 1
      else (digits (Text.ofNat n ++ behind)).length) = (Text.ofNat n).length := by
  have zero : Text.ofNat 0 = [0x30] := by decide
  rw [digits_append (fun _ => Text.isDecimal_of_mem_ofNat) ends]
  rcases Nat.eq_zero_or_pos n with rfl | positive
  · rw [zero]
    rfl
  · have lead := Text.head_ofNat positive
    rw [head_ofNat_append, if_neg (by simpa using lead)]

theorem length_ofNat_ne_zero (n : Nat) : ((Text.ofNat n).length == 0) = false := by
  simpa using Text.ofNat_ne_nil n

theorem numberWidth_ofNat (n : Nat) (ends : stops behind = true) :
    numberWidth? (Text.ofNat n ++ behind) = some (Text.ofNat n).length := by
  have unsigned : ((Text.ofNat n ++ behind).head? == some 0x2D) = false := by
    rw [head_ofNat_append, Text.unsigned_ofNat]
  obtain ⟨point, mark, mark'⟩ := not_continued ends
  simp only [numberWidth?, unsigned, Bool.false_eq_true, if_false, List.drop_zero,
    wholeWidth_ofNat n ends, length_ofNat_ne_zero, List.drop_left, point, Option.bind_some, mark, mark',
    Bool.or_false, Nat.zero_add, Nat.add_zero]

theorem numberWidth_neg (n : Nat) (ends : stops behind = true) :
    numberWidth? (0x2D :: Text.ofNat n ++ behind) = some ((Text.ofNat n).length + 1) := by
  obtain ⟨point, mark, mark'⟩ := not_continued ends
  simp only [numberWidth?, List.cons_append, List.head?_cons, beq_self_eq_true, if_true,
    List.drop_succ_cons, List.drop_zero, wholeWidth_ofNat n ends, length_ofNat_ne_zero,
    Bool.false_eq_true, if_false, List.drop_left, point, Option.bind_some, mark, mark', Bool.or_false, Nat.add_zero,
    Nat.add_comm 1]

/-- What starts with a digit or a sign is a number and nothing else. -/
theorem token_number (starts : b = 0x2D ∨ Text.isDecimal b = true) (rest : Text) :
    isBlank b = false ∧
      token? b rest = (numberWidth? (b :: rest)).map fun n => (.value (.number ((b :: rest).take n)), n) := by
  have code : b.toNat = 0x2D ∨ 0x30 ≤ b.toNat ∧ b.toNat ≤ 0x39 := by
    rcases starts with rfl | decimal
    · exact .inl rfl
    · simp only [Text.isDecimal, Bool.and_eq_true, decide_eq_true_eq, UInt8.le_iff_toNat_le] at decimal
      exact .inr decimal
  have apart (other : UInt8) (outside : other.toNat < 0x2D ∨ 0x39 < other.toNat) :
      (b == other) = false := by
    refine beq_false_of_ne fun same => ?_
    subst same
    omega
  constructor
  · simp [isBlank, apart 0x20 (by decide), apart 0x09 (by decide), apart 0x0D (by decide),
      apart 0x0A (by decide)]
  · have words (other : UInt8) (letters : Text) (outside : other.toNat < 0x2D ∨ 0x39 < other.toNat) :
        List.isPrefixOf (other :: letters) (b :: rest) = false := by
      rw [List.isPrefixOf, Bool.beq_comm, apart other outside, Bool.false_and]
    simp only [token?, apart 0x7B (by decide), apart 0x7D (by decide), apart 0x5B (by decide),
      apart 0x5D (by decide), apart 0x3A (by decide), apart 0x2C (by decide), apart 0x22 (by decide),
      letters_true, letters_false, letters_null, words 0x74 _ (by decide), words 0x66 _ (by decide),
      words 0x6E _ (by decide), Bool.false_eq_true, if_false]

theorem spells_number {literal : Text} (starts : b = 0x2D ∨ Text.isDecimal b = true)
    (split : literal = b :: tail)
    (width : numberWidth? (literal ++ behind) = some literal.length) :
    Spells (literal ++ behind) [.value (.number literal)] behind := by
  obtain ⟨dark, read⟩ := token_number starts (tail ++ behind)
  subst split
  refine spells_of_token dark ?_
  rw [read, ← List.cons_append, width, Option.map_some, List.take_left, List.length_cons]

/-- An integer is read from its numeral when nothing behind continues the numeral. -/
theorem spells_ofInt (n : Int) (ends : stops behind = true) :
    Spells (Text.ofInt n ++ behind) [.value (.ofInt n)] behind := by
  have natural (k : Nat) : Spells (Text.ofInt k ++ behind) [.value (.ofInt k)] behind := by
    obtain ⟨b, tail, digits⟩ := List.exists_cons_of_ne_nil (Text.ofNat_ne_nil k)
    have decimal : Text.isDecimal b = true := Text.isDecimal_of_mem_ofNat (digits ▸ List.mem_cons_self)
    exact spells_number (.inr decimal) digits (numberWidth_ofNat k ends)
  obtain ⟨k, rfl | rfl⟩ := Int.eq_nat_or_neg n
  · exact natural k
  · rcases Nat.eq_zero_or_pos k with rfl | positive
    · exact natural 0
    · have sign := Text.ofInt_neg positive
      refine spells_number (b := 0x2D) (.inl rfl) sign ?_
      rw [sign, numberWidth_neg k ends, List.length_cons]

/-! ### Values -/

mutual

def tokens : Json → List Tok
  | .array items => .openBracket :: (itemTokens items ++ [.closeBracket])
  | .object fields => .openBrace :: (fieldTokens fields ++ [.closeBrace])
  | v => [.value v]

def itemTokens : List Json → List Tok
  | [] => []
  | [v] => v.tokens
  | v :: rest => v.tokens ++ .comma :: itemTokens rest

def fieldTokens : List (Text × Json) → List Tok
  | [] => []
  | [(key, v)] => .value (.string key) :: .colon :: v.tokens
  | (key, v) :: rest => .value (.string key) :: .colon :: (v.tokens ++ .comma :: fieldTokens rest)

end

/-- A value whose texts are well formed and whose numerals satisfy a condition. -/
inductive Proper (numeral : Text → Prop) : Json → Prop where
  | null : Proper numeral .null
  | bool (truth : Bool) : Proper numeral (.bool truth)
  | number {literal : Text} (fits : numeral literal) : Proper numeral (.number literal)
  | string {t : Text} (valid : t.isValid = true) : Proper numeral (.string t)
  | array {items : List Json} (each : ∀ v ∈ items, Proper numeral v) : Proper numeral (.array items)
  | object {fields : List (Text × Json)} (keys : ∀ f ∈ fields, f.1.isValid = true)
      (each : ∀ f ∈ fields, Proper numeral f.2) : Proper numeral (.object fields)

theorem Proper.mono {weak strong : Text → Prop} (implies : ∀ literal, strong literal → weak literal)
    (proper : Proper strong v) : Proper weak v := by
  induction proper with
  | null => exact .null
  | bool truth => exact .bool truth
  | number fits => exact .number (implies _ fits)
  | string valid => exact .string valid
  | array each ih => exact .array ih
  | object keys each ih => exact .object keys ih

theorem Proper.allNumbers {numeral : Text → Prop} {check : Text → Bool}
    (passes : ∀ literal, numeral literal → check literal = true) (proper : Proper numeral v) :
    v.allNumbers check = true := by
  induction proper with
  | null => rfl
  | bool => rfl
  | number fits => exact passes _ fits
  | string => rfl
  | @array items each ih =>
    rw [Json.allNumbers]
    clear each
    induction items with
    | nil => rfl
    | cons v rest rest_ih =>
      obtain ⟨first, later⟩ := List.forall_mem_cons.mp ih
      rw [allNumbersIn, first, rest_ih later, Bool.true_and]
  | @object fields keys each ih =>
    rw [Json.allNumbers]
    clear keys each
    induction fields with
    | nil => rfl
    | cons f rest rest_ih =>
      obtain ⟨first, later⟩ := List.forall_mem_cons.mp ih
      rw [allNumbersOf, first, rest_ih later, Bool.true_and]

/-- A numeral as integers are written. -/
def IsInteger (literal : Text) : Prop :=
  ∃ n, literal = Text.ofInt n

/-- Items written one after the other with a separator between them, in front of something. -/
def joinOnto {α β : Type} (write : α → List β → List β) (separator : β) : List α → List β → List β
  | [], behind => behind
  | [x], behind => write x behind
  | x :: rest, behind => write x (separator :: joinOnto write separator rest behind)

theorem eq_joinOnto {α β : Type} (all : List α → List β → List β) (write : α → List β → List β)
    (separator : β) (none : ∀ behind, all [] behind = behind)
    (one : ∀ x behind, all [x] behind = write x behind)
    (more : ∀ x y rest behind,
      all (x :: y :: rest) behind = write x (separator :: all (y :: rest) behind))
    (xs : List α) (behind : List β) : all xs behind = joinOnto write separator xs behind := by
  induction xs with
  | nil => exact none behind
  | cons x rest ih =>
    cases rest with
    | nil => exact one x behind
    | cons y rest => rw [more, ih]; rfl

/-- Items that read as their tokens, joined by commas. -/
theorem spells_joinOnto {α : Type} {write : α → Text → Text} {toks : α → List Tok} {xs : List α}
    (each : ∀ x ∈ xs, ∀ behind, stops behind = true → Spells (write x behind) (toks x) behind)
    (ends : stops behind = true) :
    Spells (joinOnto write 0x2C xs behind) (joinOnto (fun x rest => toks x ++ rest) .comma xs [])
      behind := by
  induction xs with
  | nil => exact Option.map_id'.symm
  | cons x rest ih =>
    have first := each x List.mem_cons_self
    cases rest with
    | nil => simpa only [joinOnto, List.append_nil] using first behind ends
    | cons y rest =>
      have others := ih fun z member => each z (List.mem_cons_of_mem x member)
      exact (first _ rfl).trans (spells_comma.trans others)

theorem itemTokens_eq (items : List Json) :
    itemTokens items = joinOnto (fun v rest => v.tokens ++ rest) .comma items [] := by
  have joined := eq_joinOnto (fun items rest => itemTokens items ++ rest)
    (fun v rest => v.tokens ++ rest) Tok.comma (fun _ => rfl) (fun _ _ => rfl)
    (fun v w others rest => by simp [itemTokens]) items []
  simpa only [List.append_nil] using joined

theorem fieldTokens_eq (fields : List (Text × Json)) :
    fieldTokens fields =
      joinOnto (fun f rest => .value (.string f.1) :: .colon :: f.2.tokens ++ rest) .comma fields [] := by
  have joined := eq_joinOnto (fun fields rest => fieldTokens fields ++ rest)
    (fun f rest => .value (.string f.1) :: .colon :: f.2.tokens ++ rest) Tok.comma (fun _ => rfl) (fun _ _ => rfl)
    (fun f g others rest => by simp [fieldTokens]) fields []
  simpa only [List.append_nil] using joined

theorem spells_field {key written : Text} {toks : List Tok} (valid : key.isValid = true)
    (value : Spells written toks behind) :
    Spells (quote key ++ 0x3A :: written) (.value (.string key) :: .colon :: toks) behind :=
  (spells_quote valid).trans (spells_colon.trans value)

/-- A value without blanks reads as its tokens. -/
theorem spells_compactOnto (proper : Proper IsInteger v) (ends : stops behind = true) :
    Spells (v.compactOnto behind) v.tokens behind := by
  induction proper generalizing behind with
  | null => exact spells_null
  | bool truth => exact spells_bool truth
  | number integer =>
    obtain ⟨n, rfl⟩ := integer
    exact spells_ofInt n ends
  | string valid => exact spells_quote valid
  | @array items each ih =>
    have inner : Spells (compactItems items (0x5D :: behind)) (itemTokens items) (0x5D :: behind) := by
      rw [itemTokens_eq, eq_joinOnto compactItems compactOnto 0x2C (fun _ => rfl)
        (fun _ _ => rfl) (fun _ _ _ _ => rfl)]
      exact spells_joinOnto (fun v member _ => ih v member) rfl
    exact spells_openBracket.trans (inner.trans spells_closeBracket)
  | @object fields keys each ih =>
    have inner : Spells (compactFields fields (0x7D :: behind)) (fieldTokens fields) (0x7D :: behind) := by
      rw [fieldTokens_eq, eq_joinOnto compactFields
        (fun f behind => quote f.1 ++ 0x3A :: f.2.compactOnto behind) 0x2C
        (fun _ => rfl) (fun _ _ => rfl) (fun _ _ _ _ => rfl)]
      refine spells_joinOnto (fun f member behind ends => ?_) rfl
      exact spells_field (keys f member) (ih f member ends)
    exact spells_openBrace.trans (inner.trans spells_closeBrace)

theorem spells_newLine (level : Nat) : Spells (newLine level ++ behind) [] behind := by
  have blanks (n : Nat) : Spells (Text.replicate n 0x20 ++ behind) [] behind := by
    induction n with
    | zero => exact Option.map_id'.symm
    | succ n ih => exact (spells_blank rfl).trans ih
  exact (spells_blank rfl).trans (blanks (2 * level))

/-- A value with every item and field on a line of its own reads as its tokens. -/
theorem spells_indentedOnto (proper : Proper IsInteger v) (level : Nat) (ends : stops behind = true) :
    Spells (v.indentedOnto level behind) v.tokens behind := by
  induction proper generalizing level behind with
  | null => exact spells_null
  | bool truth => exact spells_bool truth
  | number integer =>
    obtain ⟨n, rfl⟩ := integer
    exact spells_ofInt n ends
  | string valid => exact spells_quote valid
  | @array items each ih =>
    have inner (behind : Text) (ends : stops behind = true) :
        Spells (indentedItems (level + 1) items behind) (itemTokens items) behind := by
      rw [itemTokens_eq, eq_joinOnto (indentedItems (level + 1))
        (fun v behind => newLine (level + 1) ++ v.indentedOnto (level + 1) behind) 0x2C
        (fun _ => rfl) (fun _ _ => rfl) (fun _ _ _ _ => rfl)]
      refine spells_joinOnto (fun v member behind ends => ?_) ends
      exact (spells_newLine (level + 1)).trans (ih v member (level + 1) ends)
    cases items with
    | nil => exact spells_openBracket.trans spells_closeBracket
    | cons v rest =>
      have close : Spells (newLine level ++ 0x5D :: behind) [.closeBracket] behind :=
        (spells_newLine level).trans spells_closeBracket
      exact spells_openBracket.trans ((inner _ rfl).trans close)
  | @object fields keys each ih =>
    have inner (behind : Text) (ends : stops behind = true) :
        Spells (indentedFields (level + 1) fields behind) (fieldTokens fields) behind := by
      rw [fieldTokens_eq, eq_joinOnto (indentedFields (level + 1))
        (fun f behind => newLine (level + 1) ++ quote f.1 ++ 0x3A :: 0x20 ::
          f.2.indentedOnto (level + 1) behind) 0x2C
        (fun _ => rfl) (fun _ _ => rfl) (fun _ _ _ _ => rfl)]
      refine spells_joinOnto (fun f member behind ends => ?_) ends
      rw [List.append_assoc]
      have value := (spells_blank (b := 0x20) rfl).trans (ih f member (level + 1) ends)
      exact (spells_newLine (level + 1)).trans (spells_field (keys f member) value)
    cases fields with
    | nil => exact spells_openBrace.trans spells_closeBrace
    | cons f rest =>
      have close : Spells (newLine level ++ 0x7D :: behind) [.closeBrace] behind :=
        (spells_newLine level).trans spells_closeBrace
      exact spells_openBrace.trans ((inner _ rfl).trans close)

end SystemLoops.Format.Json
