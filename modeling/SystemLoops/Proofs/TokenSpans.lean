import SystemLoops.Proofs.FirstLine
import SystemLoops.Source.Scan

namespace SystemLoops.Source

variable {b : UInt8} {rest t code : Text} {token : Token}

/-! ### Widths -/

theorem rawExtent_width_le (t : Text) : (rawExtent t).width ≤ t.length := by
  induction t with
  | nil => exact Nat.le_refl 0
  | cons b rest ih =>
    rw [rawExtent]
    split
    · exact Nat.le_add_left 1 _
    · exact Nat.succ_le_succ ih

theorem blockExtent_width_le (t : Text) : (blockExtent t).width ≤ t.length := by
  induction t with
  | nil => exact Nat.le_refl 0
  | cons b rest ih =>
    rw [blockExtent]
    split
    · rename_i closed
      obtain ⟨-, second⟩ := Bool.and_eq_true_iff.mp closed
      obtain ⟨behind, rfl⟩ := List.head?_eq_some_iff.mp (beq_iff_eq.mp second)
      exact Nat.le_add_left 2 _
    · exact Nat.succ_le_succ ih

theorem digitRun_ne_nil (radix : Radix) (digit : Text.isDecimal b = true) (rest : Text) :
    digitRun radix (b :: rest) ≠ [] := by
  have hex : isHexDigit b = true := by
    rw [Text.isDecimal] at digit
    rw [isHexDigit, Text.hexValue?, if_pos digit]
    rfl
  rw [digitRun, List.takeWhile_cons_of_pos (by simp [digit, hex])]
  exact List.cons_ne_nil b _

theorem number_width_pos (front : Text.isDecimal b = true ∨ b = 0x2E) : 1 ≤ (number (b :: rest)).width := by
  have mantissa : 1 ≤ (Mantissa.read (b :: rest)).width := by
    simp only [Mantissa.read]
    split
    · dsimp only
      omega
    · rename_i unmarked
      refine Nat.one_le_iff_ne_zero.mpr fun none => ?_
      obtain ⟨lead, whole⟩ := Nat.add_eq_zero_iff.mp none
      rw [lead, List.drop_zero, List.length_eq_zero_iff] at whole
      rcases front with digit | rfl
      · exact digitRun_ne_nil _ digit rest whole
      · simp [lead, whole] at unmarked
  simp only [number]
  omega

theorem lexeme_backquote (rest : Text) :
    lexeme backquote rest =
      { tok := .string, width := (rawExtent rest).width + 1, endsLine := true
        flawed := !(rawExtent rest).wellFormed } := by
  have letter : isIdentStart (Rune.decode backquote rest).char = false := by
    change isIdentStart (Char.ofNat 0x60) = false
    decide +kernel
  rw [lexeme, letter]
  rfl

theorem lexeme_blockComment (rest : Text) :
    lexeme 0x2F (0x2A :: rest) =
      { tok := .comment, width := 2 + (blockExtent rest).width
        flawed := !(blockExtent rest).wellFormed } := by
  have letter : isIdentStart (Rune.decode 0x2F (0x2A :: rest)).char = false := by
    change isIdentStart (Char.ofNat 0x2F) = false
    decide +kernel
  rw [lexeme, letter]
  rfl

theorem mayWrap_cases (wraps : mayWrap b rest = true) :
    b = backquote ∨ ∃ behind, b = 0x2F ∧ rest = 0x2A :: behind := by
  rcases Bool.or_eq_true_iff.mp wraps with quote | star
  · exact .inl (beq_iff_eq.mp quote)
  · obtain ⟨slash, star⟩ := Bool.and_eq_true_iff.mp star
    obtain ⟨behind, rfl⟩ := List.head?_eq_some_iff.mp (beq_iff_eq.mp star)
    exact .inr ⟨behind, beq_iff_eq.mp slash, rfl⟩

theorem firstLine_length_le (t : Text) : t.firstLine.length ≤ t.length :=
  (List.takeWhile_prefix _).length_le

theorem lexeme_width_le (dark : b ≠ Text.newline) (rest : Text) :
    (lexeme b rest).width ≤ rest.length + 1 := by
  cases wraps : mayWrap b rest with
  | false =>
    have within := (lexeme_firstLine dark rest wraps).2
    exact Nat.le_trans within (Nat.succ_le_succ (firstLine_length_le rest))
  | true =>
    rcases mayWrap_cases wraps with rfl | ⟨behind, rfl, rfl⟩
    · rw [lexeme_backquote]
      exact Nat.succ_le_succ (rawExtent_width_le rest)
    · rw [lexeme_blockComment, List.length_cons, Nat.add_comm]
      exact Nat.succ_le_succ (Nat.succ_le_succ (blockExtent_width_le behind))

/-! ### Kinds -/

theorem keyword_mem {tok : Tok} (found : Tok.keyword? t = some tok) : tok ∈ Tok.keywords := by
  obtain ⟨entry, first, rfl⟩ := Option.map_eq_some_iff.mp found
  obtain ⟨tok, member, rfl⟩ := List.mem_map.mp (List.mem_of_find?_eq_some first)
  exact member

theorem operator_mem {op : Lexeme} (found : operator? t = some op) : op.tok ∈ operators := by
  obtain ⟨entry, first, rfl⟩ := Option.map_eq_some_iff.mp found
  obtain ⟨tok, member, rfl⟩ := List.mem_map.mp (List.mem_of_find?_eq_some first)
  exact member

theorem number_tok (t : Text) : (number t).tok ∈ [Tok.imag, .float, .int] := by
  simp only [number]
  split
  · exact List.mem_cons_self
  · split
    · exact List.mem_cons_of_mem _ List.mem_cons_self
    · exact List.mem_cons_of_mem _ (List.mem_cons_of_mem _ List.mem_cons_self)

theorem operator_width_pos {op : Lexeme} (found : operator? t = some op) : 1 ≤ op.width := by
  have spelled : ∀ entry ∈ operatorSpellings, 1 ≤ entry.2.length := by decide +kernel
  obtain ⟨entry, first, rfl⟩ := Option.map_eq_some_iff.mp found
  exact spelled entry (List.mem_of_find?_eq_some first)

/-- What a lexeme may be. A comment has a second byte that is no line feed. -/
inductive LexemeForm (rest : Text) (lx : Lexeme) : Prop where
  | word (kind : lx.tok = .ident ∨ lx.tok ∈ Tok.keywords) (wide : 1 ≤ lx.width)
  | number (kind : lx.tok ∈ [Tok.imag, .float, .int]) (wide : 1 ≤ lx.width)
  | quoted (kind : lx.tok = .string ∨ lx.tok = .char) (wide : 1 ≤ lx.width)
  | comment (kind : lx.tok = .comment) (wide : 2 ≤ lx.width)
      (second : ∃ c behind, rest = c :: behind ∧ c ≠ Text.newline)
  | operator (kind : lx.tok ∈ operators) (wide : 1 ≤ lx.width)
  | illegal (kind : lx.tok = .illegal) (wide : 1 ≤ lx.width)

theorem lexeme_form (b : UInt8) (rest : Text) : LexemeForm rest (lexeme b rest) := by
  have second {mark second : UInt8} (marks : (b == mark && rest.head? == some second) = true)
      (dark : second ≠ Text.newline) : ∃ c behind, rest = c :: behind ∧ c ≠ Text.newline := by
    obtain ⟨-, second⟩ := Bool.and_eq_true_iff.mp marks
    obtain ⟨behind, split⟩ := List.head?_eq_some_iff.mp (beq_iff_eq.mp second)
    exact ⟨_, behind, split, dark⟩
  unfold lexeme
  dsimp only
  split
  · split
    · rename_i found
      exact .word (.inr (keyword_mem found)) (Nat.le_add_left 1 _)
    · exact .word (.inl rfl) (Nat.le_add_left 1 _)
  · split
    · rename_i front
      refine .number (number_tok _) (number_width_pos ?_)
      rcases Bool.or_eq_true_iff.mp front with digit | point
      · exact .inl digit
      · exact .inr (beq_iff_eq.mp (Bool.and_eq_true_iff.mp point).1)
    · split
      · exact .quoted (.inl rfl) (Nat.le_add_left 1 _)
      · split
        · exact .quoted (.inr rfl) (Nat.le_add_left 1 _)
        · split
          · exact .quoted (.inl rfl) (Nat.le_add_left 1 _)
          · split
            · rename_i marks
              exact .comment rfl (Nat.le_add_right 2 _) (second marks (by decide))
            · split
              · rename_i marks
                exact .comment rfl (Nat.le_add_right 2 _) (second marks (by decide))
              · split
                · rename_i found
                  exact .operator (operator_mem found) (operator_width_pos found)
                · exact .illegal rfl (Rune.decode_width b rest).1

theorem lexeme_width_pos (b : UInt8) (rest : Text) : 1 ≤ (lexeme b rest).width := by
  cases lexeme_form b rest with
  | comment _ wide => exact Nat.le_of_succ_le wide
  | word _ wide | number _ wide | quoted _ wide | operator _ wide | illegal _ wide => exact wide

theorem lexeme_comment (kind : (lexeme b rest).tok = .comment) :
    2 ≤ (lexeme b rest).width ∧ ∃ c behind, rest = c :: behind ∧ c ≠ Text.newline := by
  cases lexeme_form b rest with
  | comment _ wide second => exact ⟨wide, second⟩
  | word other | number other | quoted other | operator other | illegal other =>
    rw [kind] at other
    exact absurd other (by decide)

/-! ### Spans -/

def Token.span (code : Text) (token : Token) : Text :=
  (code.drop token.offset).take token.width

/-- Whether a token is a string or a comment, the kinds that may run over line feeds. -/
def Token.isText (token : Token) : Bool :=
  token.tok == .string || token.tok == .comment

/-- A token is the lexeme at its offset. -/
structure Token.ReadAt (code : Text) (token : Token) (b : UInt8) (rest : Text) : Prop where
  dark : b ≠ Text.newline
  front : code.drop token.offset = b :: rest
  tok : token.tok = (lexeme b rest).tok
  width : token.width = (lexeme b rest).width
  literal : token.literal = literalOf token.tok (token.span code)

theorem drop_next {offset : Nat} (front : code.drop offset = b :: rest) : code.drop (offset + 1) = rest := by
  rw [← List.drop_drop, front, List.drop_one, List.tail_cons]

def lexemeToken (offset : Nat) (b : UInt8) (rest : Text) : Token :=
  let lx := lexeme b rest
  { tok := lx.tok, offset, width := lx.width
    literal := literalOf lx.tok (b :: rest.take (lx.width - 1)), flawed := lx.flawed }

theorem lexemeToken_readAt {offset : Nat} (front : code.drop offset = b :: rest) (dark : b ≠ Text.newline) :
    (lexemeToken offset b rest).ReadAt code b rest := by
  refine ⟨dark, front, rfl, rfl, ?_⟩
  obtain ⟨width, same⟩ := Nat.exists_eq_add_of_le' (lexeme_width_pos b rest)
  rw [Token.span, lexemeToken, front]
  simp only [same, List.take_succ_cons, Nat.add_sub_cancel]

theorem tokensFrom_readAt {skip offset : Nat} {endsLine : Bool} (front : code.drop offset = t)
    (member : token ∈ tokensFrom skip offset endsLine t) (isText : token.isText = true) :
    ∃ b rest, token.ReadAt code b rest := by
  fun_induction tokensFrom skip offset endsLine t with
  | case1 =>
    simp only [List.mem_cons, List.not_mem_nil, or_false] at member
    rcases member with rfl | rfl <;> cases isText
  | case2 =>
    rw [List.mem_singleton] at member
    subst member
    cases isText
  | case3 _ _ _ _ _ ih => exact ih (drop_next front) member
  | case4 _ _ _ _ _ ih => exact ih (drop_next front) member
  | case5 _ _ _ _ _ ih =>
    rcases List.mem_cons.mp member with rfl | later
    · cases isText
    · exact ih (drop_next front) later
  | case6 _ _ _ _ _ _ _ ih => exact ih (drop_next front) member
  | case7 offset endsLine b rest blank feed lx raw own inside _ _ ih =>
    rcases List.mem_cons.mp member with rfl | later
    · exact ⟨b, rest, lexemeToken_readAt front (by simpa using feed)⟩
    · rcases List.mem_cons.mp later with rfl | later
      · cases isText
      · exact ih (drop_next front) later
  | case8 offset endsLine b rest blank feed lx raw own next _ ih =>
    rcases List.mem_cons.mp member with rfl | later
    · exact ⟨b, rest, lexemeToken_readAt front (by simpa using feed)⟩
    · exact ih (drop_next front) later

theorem tokens_readAt (member : token ∈ tokens code) (isText : token.isText = true) :
    ∃ b rest, token.ReadAt code b rest := by
  unfold tokens at member
  split at member
  · simp only [List.mem_cons, List.not_mem_nil, or_false] at member
    rcases member with rfl | rfl <;> cases isText
  · split at member
    · exact tokensFrom_readAt rfl member isText
    · exact tokensFrom_readAt rfl member isText

/-! ### Raw strings -/

def Token.isRaw (token : Token) : Bool :=
  token.tok == .string && token.literal.head? == some backquote

theorem dropReturns_eq_filter (t : Text) : dropReturns false t = t.filter (· != carriageReturn) := by
  have collect (kept : Text) (count : Nat) (t : Text) :
      dropReturns.go false kept count t = kept.reverse ++ t.filter (· != carriageReturn) := by
    induction t generalizing kept count with
    | nil => simp [dropReturns.go]
    | cons b rest ih =>
      simp only [dropReturns.go, List.filter_cons, Bool.false_and, Bool.or_false]
      split
      · rw [ih, List.reverse_cons, List.append_assoc, List.singleton_append]
      · exact ih kept count
  exact collect [] 0 t

theorem literalOf_raw {raw : Text} (opened : raw.head? = some backquote) :
    literalOf .string raw = raw.filter (· != carriageReturn) := by
  rw [← dropReturns_eq_filter]
  exact if_pos (beq_iff_eq.mpr opened)

/-- A token is a raw string exactly if it is a string that a backquote opens. -/
theorem isRaw_iff (read : token.ReadAt code b rest) :
    token.isRaw = true ↔ token.tok = .string ∧ (token.span code).head? = some backquote := by
  rw [Token.isRaw, Bool.and_eq_true, beq_iff_eq, beq_iff_eq, read.literal]
  refine and_congr_right fun kind => ?_
  rw [kind]
  by_cases opened : (token.span code).head? = some backquote
  · refine iff_of_true ?_ opened
    obtain ⟨behind, split⟩ := List.head?_eq_some_iff.mp opened
    rw [literalOf_raw opened, split, List.filter_cons_of_pos (by decide)]
    rfl
  · rw [literalOf, if_neg (by simpa using opened)]

theorem count_literal (read : token.ReadAt code b rest) (raw : token.isRaw = true) :
    token.literal.count Text.newline = (token.span code).count Text.newline := by
  obtain ⟨kind, opened⟩ := (isRaw_iff read).mp raw
  rw [read.literal, kind, literalOf_raw opened]
  exact List.count_filter (by decide)

end SystemLoops.Source
