import Mathlib.Data.List.Forall2
import SystemLoops.Proofs.LineLeads

namespace SystemLoops.Source

open Text (leadLines lineAt)

variable {chosen : Nat → Bool} {lead code code' rest t : Text} {b : UInt8} {offset offset' : Nat}
  {endsLine : Bool} {token token' : Token}

/-! ### One step of the scan -/

/-- White space that separates tokens on a line. -/
def isGap (b : UInt8) : Bool :=
  b == 0x20 || b == 0x09 || b == carriageReturn

theorem tokensFrom_gap (gap : isGap b = true) (rest : Text) :
    tokensFrom 0 offset endsLine (b :: rest) = tokensFrom 0 (offset + 1) endsLine rest := by
  rw [isGap] at gap
  rw [tokensFrom, if_pos gap]

theorem tabs_of_chosen (chosen : Nat → Bool) (tabs : ∀ c ∈ lead, c = 0x09) (i : Nat) :
    ∀ c ∈ (if chosen i then lead else []), c = 0x09 := by
  split
  · exact tabs
  · simp

theorem tokensFrom_tabs (tabs : ∀ c ∈ lead, c = 0x09) (t : Text) :
    tokensFrom 0 offset endsLine (lead ++ t) = tokensFrom 0 (offset + lead.length) endsLine t := by
  induction lead generalizing offset with
  | nil => rfl
  | cons c lead ih =>
    obtain ⟨rfl, others⟩ := List.forall_mem_cons.mp tabs
    rw [List.cons_append, tokensFrom_gap rfl, ih others, List.length_cons, Nat.add_assoc, Nat.add_comm 1]

theorem tokensFrom_newline (rest : Text) :
    tokensFrom 0 offset endsLine (Text.newline :: rest) =
      (if endsLine then [lineEndToken offset] else []) ++ tokensFrom 0 (offset + 1) false rest := by
  rw [tokensFrom, if_neg (by decide), if_pos (beq_self_eq_true _)]
  cases endsLine <;> rfl

theorem tokensFrom_skip {k : Nat} (within : k ≤ t.length) :
    tokensFrom k offset endsLine t = tokensFrom 0 (offset + k) endsLine (t.drop k) := by
  induction t generalizing k offset with
  | nil =>
    rw [Nat.le_zero.mp within]
    rfl
  | cons b rest ih =>
    cases k with
    | zero => rfl
    | succ k =>
      rw [tokensFrom, ih (Nat.le_of_succ_le_succ within), List.drop_succ_cons, Nat.add_assoc, Nat.add_comm 1]

/-- Whether a comment holds the line feed that ends a statement. -/
def breaksLine (endsLine : Bool) (b : UInt8) (rest : Text) : Bool :=
  (lexeme b rest).tok == .comment && endsLine
    && ((b :: rest).take (lexeme b rest).width).contains Text.newline

/-- Whether a line feed after a lexeme ends the statement. -/
def endsAfter (endsLine : Bool) (b : UInt8) (rest : Text) : Bool :=
  !breaksLine endsLine b rest &&
    (if (lexeme b rest).tok == .comment || (lexeme b rest).tok == .illegal then endsLine
      else (lexeme b rest).endsLine)

theorem tokensFrom_lexeme (offset : Nat) (endsLine : Bool) (dark : b ≠ Text.newline)
    (shown : isGap b = false) (rest : Text) :
    ∃ inside, tokensFrom 0 offset endsLine (b :: rest) =
      lexemeToken offset b rest :: ((if breaksLine endsLine b rest then [lineEndToken inside] else []) ++
        tokensFrom 0 (offset + (lexeme b rest).width) (endsAfter endsLine b rest)
          ((b :: rest).drop (lexeme b rest).width)) := by
  obtain ⟨width, wide⟩ := Nat.exists_eq_add_of_le' (lexeme_width_pos b rest)
  have within : (lexeme b rest).width - 1 ≤ rest.length := Nat.sub_le_of_le_add (lexeme_width_le dark rest)
  have onward (ends : Bool) : tokensFrom ((lexeme b rest).width - 1) (offset + 1) ends rest =
      tokensFrom 0 (offset + (lexeme b rest).width) ends ((b :: rest).drop (lexeme b rest).width) := by
    rw [tokensFrom_skip within, wide, Nat.add_sub_cancel, List.drop_succ_cons, Nat.add_assoc, Nat.add_comm 1]
  have raw : b :: rest.take ((lexeme b rest).width - 1) = (b :: rest).take (lexeme b rest).width := by
    rw [wide, Nat.add_sub_cancel, List.take_succ_cons]
  have found : (((b :: rest).take (lexeme b rest).width).findIdx? (· == Text.newline)).isSome =
      ((b :: rest).take (lexeme b rest).width).contains Text.newline := by
    rw [List.findIdx?_isSome, List.contains_eq_any_beq]
    simp only [BEq.comm]
  rw [isGap] at shown
  rw [tokensFrom, if_neg (by simp [shown]), if_neg (by simpa using dark)]
  simp only [onward, raw]
  split
  · rename_i inside comment index
    have breaks : breaksLine endsLine b rest = true := by
      rw [breaksLine, comment, ← found, index]
      rfl
    refine ⟨offset + inside, ?_⟩
    rw [endsAfter, breaks, lexemeToken, raw]
    rfl
  · rename_i never
    have flows : breaksLine endsLine b rest = false := by
      refine Bool.eq_false_iff.mpr fun breaks => ?_
      rw [breaksLine, ← found] at breaks
      obtain ⟨comment, some⟩ := Bool.and_eq_true_iff.mp breaks
      obtain ⟨inside, index⟩ := Option.isSome_iff_exists.mp some
      exact never inside comment index
    refine ⟨0, ?_⟩
    rw [endsAfter, flows, lexemeToken, raw]
    rfl

/-! ### The whole scan -/

structure Led (chosen : Nat → Bool) (lead code code' : Text) (token token' : Token) : Prop where
  tok : token'.tok = token.tok
  span : token.isText = true →
    token'.span code' = leadLines chosen lead (lineAt code token.offset) (token.span code)

theorem Led.of_plain (tok : token'.tok = token.tok) (plain : token.isText = false) :
    Led chosen lead code code' token token' :=
  ⟨tok, fun isText => absurd isText (by simp [plain])⟩

/-- No chosen line starts in a raw string. -/
def Still (chosen : Nat → Bool) (code : Text) (scanned : List Token) : Prop :=
  ∀ token ∈ scanned, token.isRaw = true → ∀ i, lineAt code token.offset < i →
    i ≤ lineAt code (token.offset + token.width) → chosen i = false

theorem Still.later {scanned : List Token} (still : Still chosen code (token :: scanned)) :
    Still chosen code scanned :=
  fun other member => still other (List.mem_cons_of_mem token member)

theorem Still.behind {before scanned : List Token} (still : Still chosen code (before ++ scanned)) :
    Still chosen code scanned :=
  fun other member => still other (List.mem_append_right before member)

theorem lexeme_led {n : Nat} (tabs : ∀ c ∈ lead, c = 0x09) (dark : b ≠ Text.newline)
    (still : b = backquote → ∀ i, n < i →
      i ≤ n + ((b :: rest).take (lexeme b rest).width).count Text.newline → chosen i = false) :
    let rest' := leadLines chosen lead n rest
    (lexeme b rest').tok = (lexeme b rest).tok ∧
    (b :: rest').take (lexeme b rest').width =
      leadLines chosen lead n ((b :: rest).take (lexeme b rest).width) ∧
    (b :: rest').drop (lexeme b rest').width =
      leadLines chosen lead (n + ((b :: rest).take (lexeme b rest).width).count Text.newline)
        ((b :: rest).drop (lexeme b rest).width) ∧
    breaksLine endsLine b rest' = breaksLine endsLine b rest ∧
    endsAfter endsLine b rest' = endsAfter endsLine b rest := by
  intro rest'
  have plain : ∀ c ∈ lead, c ≠ 0x2A := fun c member => by
    rw [tabs c member]
    decide
  have lexed := lexeme_leadLines dark plain still
  have tok : (lexeme b rest').tok = (lexeme b rest).tok := by rw [lexed]
  have ends : (lexeme b rest').endsLine = (lexeme b rest).endsLine := by rw [lexed]
  have width : (lexeme b rest').width =
      (leadLines chosen lead n ((b :: rest).take (lexeme b rest).width)).length := by rw [lexed]
  have cut : b :: rest' = leadLines chosen lead n ((b :: rest).take (lexeme b rest).width) ++
      leadLines chosen lead (n + ((b :: rest).take (lexeme b rest).width).count Text.newline)
        ((b :: rest).drop (lexeme b rest).width) := by
    rw [← Text.leadLines_append, List.take_append_drop, Text.leadLines_cons dark]
  have spans : (b :: rest').take (lexeme b rest').width =
      leadLines chosen lead n ((b :: rest).take (lexeme b rest).width) := by
    rw [cut, width, List.take_left]
  have breaks : breaksLine endsLine b rest' = breaksLine endsLine b rest := by
    rw [breaksLine, breaksLine, spans, tok, Bool.eq_iff_iff]
    simp only [Bool.and_eq_true, List.contains_iff_mem, Text.newline_mem_leadLines]
  refine ⟨tok, spans, ?_, breaks, ?_⟩
  · rw [cut, width, List.drop_left]
  · rw [endsAfter, endsAfter, breaks, tok, ends]

theorem Still.own {n : Nat} {scanned : List Token} (still : Still chosen code scanned)
    (front : code.drop offset = b :: rest) (line : lineAt code offset = n) (dark : b ≠ Text.newline)
    (member : lexemeToken offset b rest ∈ scanned) (quote : b = backquote) :
    ∀ i, n < i → i ≤ n + ((b :: rest).take (lexeme b rest).width).count Text.newline →
      chosen i = false := by
  intro i above below
  obtain ⟨width, wide⟩ := Nat.exists_eq_add_of_le' (lexeme_width_pos b rest)
  have span : (lexemeToken offset b rest).span code = (b :: rest).take (lexeme b rest).width := by
    rw [Token.span, lexemeToken, front]
  have raw : (lexemeToken offset b rest).isRaw = true := by
    refine (isRaw_iff (lexemeToken_readAt front dark)).mpr ⟨?_, ?_⟩
    · rw [lexemeToken, quote, lexeme_backquote]
    · rw [span, wide, quote, List.take_succ_cons]
      rfl
  refine still _ member raw i ?_ ?_
  · rwa [lexemeToken, line]
  · rwa [lexemeToken, Text.lineAt_add, line, front]

/-- Two scans are at the same place, in line `n`: the one has `t` ahead, and the other `t` with lines led. -/
structure InStep (chosen : Nat → Bool) (lead code code' : Text) (offset offset' n : Nat) (t : Text) : Prop where
  front : code.drop offset = t
  front' : code'.drop offset' = leadLines chosen lead n t
  line : lineAt code offset = n

namespace InStep

variable {n : Nat}

theorem newline (step : InStep chosen lead code code' offset offset' n (Text.newline :: rest)) :
    InStep chosen lead code code' (offset + 1)
      (offset' + 1 + (if chosen (n + 1) then lead else []).length) (n + 1) rest := by
  obtain ⟨front, front', line⟩ := step
  rw [Text.leadLines_newline] at front'
  refine ⟨drop_next front, ?_, ?_⟩
  · rw [← List.drop_drop, drop_next front', List.drop_left]
  · rw [Text.lineAt_add, front, line, List.take_succ_cons, List.take_zero, List.count_cons_self,
      List.count_nil]

theorem past (step : InStep chosen lead code code' offset offset' n (b :: rest)) (dark : b ≠ Text.newline) :
    InStep chosen lead code code' (offset + 1) (offset' + 1) n rest := by
  obtain ⟨front, front', line⟩ := step
  rw [Text.leadLines_cons dark] at front'
  refine ⟨drop_next front, drop_next front', ?_⟩
  rw [Text.lineAt_add, front, line, List.take_succ_cons, List.take_zero, List.count_cons_of_ne dark,
    List.count_nil, Nat.add_zero]

theorem behind (step : InStep chosen lead code code' offset offset' n (b :: rest)) (dark : b ≠ Text.newline)
    (same : (b :: leadLines chosen lead n rest).drop (lexeme b (leadLines chosen lead n rest)).width =
      leadLines chosen lead (n + ((b :: rest).take (lexeme b rest).width).count Text.newline)
        ((b :: rest).drop (lexeme b rest).width)) :
    InStep chosen lead code code' (offset + (lexeme b rest).width)
      (offset' + (lexeme b (leadLines chosen lead n rest)).width)
      (n + ((b :: rest).take (lexeme b rest).width).count Text.newline)
      ((b :: rest).drop (lexeme b rest).width) := by
  obtain ⟨front, front', line⟩ := step
  rw [Text.leadLines_cons dark] at front'
  refine ⟨?_, ?_, ?_⟩
  · rw [← List.drop_drop, front]
  · rw [← List.drop_drop, front', same]
  · rw [Text.lineAt_add, line, front]

/-- The token at the place becomes the one that the other scan reads. -/
theorem led (step : InStep chosen lead code code' offset offset' n (b :: rest)) (dark : b ≠ Text.newline)
    (tok : (lexeme b (leadLines chosen lead n rest)).tok = (lexeme b rest).tok)
    (spans : (b :: leadLines chosen lead n rest).take (lexeme b (leadLines chosen lead n rest)).width =
      leadLines chosen lead n ((b :: rest).take (lexeme b rest).width)) :
    Led chosen lead code code' (lexemeToken offset b rest)
      (lexemeToken offset' b (leadLines chosen lead n rest)) := by
  obtain ⟨front, front', line⟩ := step
  rw [Text.leadLines_cons dark] at front'
  refine ⟨tok, fun _ => ?_⟩
  rw [Token.span, Token.span, lexemeToken, lexemeToken, front, front', spans, line]

end InStep

/-- Scans in step read the same tokens from there on, but for the leads. -/
theorem tokensFrom_led {n : Nat} (tabs : ∀ c ∈ lead, c = 0x09)
    (step : InStep chosen lead code code' offset offset' n t)
    (still : Still chosen code (tokensFrom 0 offset endsLine t)) :
    List.Forall₂ (Led chosen lead code code') (tokensFrom 0 offset endsLine t)
      (tokensFrom 0 offset' endsLine (leadLines chosen lead n t)) := by
  -- a lexeme takes any number of bytes, so the induction is on how many are left
  induction size : t.length using Nat.strongRecOn generalizing t offset offset' endsLine n with
  | _ size ih =>
    subst size
    cases t with
    | nil =>
      rw [leadLines, tokensFrom, tokensFrom]
      cases endsLine
      · exact .cons (.of_plain rfl rfl) .nil
      · exact .cons (.of_plain rfl rfl) (.cons (.of_plain rfl rfl) .nil)
    | cons b rest =>
      have shorter : rest.length < (b :: rest).length := Nat.lt_succ_self _
      by_cases feed : b = Text.newline
      · subst feed
        rw [tokensFrom_newline] at still
        rw [Text.leadLines_newline, tokensFrom_newline, tokensFrom_newline,
          tokensFrom_tabs (tabs_of_chosen chosen tabs (n + 1))]
        cases endsLine with
        | true => exact .cons (.of_plain rfl rfl) (ih _ shorter step.newline still.later rfl)
        | false => exact ih _ shorter step.newline still rfl
      · rw [Text.leadLines_cons feed]
        cases gap : isGap b with
        | true =>
          rw [tokensFrom_gap gap] at still ⊢
          rw [tokensFrom_gap gap]
          exact ih _ shorter (step.past feed) still rfl
        | false =>
          obtain ⟨inside, scan⟩ := tokensFrom_lexeme offset endsLine feed gap rest
          obtain ⟨inside', scan'⟩ := tokensFrom_lexeme offset' endsLine feed gap
            (leadLines chosen lead n rest)
          rw [scan] at still
          obtain ⟨tok, spans, behind, breaks, ends⟩ := lexeme_led tabs feed
            (still.own step.front step.line feed List.mem_cons_self)
          have shorter : ((b :: rest).drop (lexeme b rest).width).length < (b :: rest).length := by
            rw [List.length_drop]
            exact Nat.sub_lt (Nat.succ_pos _) (lexeme_width_pos b rest)
          have others := ih _ shorter (step.behind feed behind) still.later.behind rfl
          rw [scan, scan', behind, breaks, ends]
          refine .cons (step.led feed tok spans) ?_
          cases breaksLine endsLine b rest with
          | true => exact .cons (.of_plain rfl rfl) others
          | false => exact others

theorem Led.isRaw (led : Led chosen lead code code' token token')
    (read : token.isText = true → ∃ b rest, token.ReadAt code b rest)
    (read' : token'.isText = true → ∃ b rest, token'.ReadAt code' b rest) :
    token'.isRaw = token.isRaw := by
  by_cases kind : token.tok = .string
  · have isText : token.isText = true := by simp [Token.isText, kind]
    have isText' : token'.isText = true := by simp [Token.isText, led.tok, kind]
    obtain ⟨b, rest, read⟩ := read isText
    obtain ⟨b', rest', read'⟩ := read' isText'
    rw [Bool.eq_iff_iff, isRaw_iff read, isRaw_iff read', led.tok, led.span isText, Text.head?_leadLines]
  · rw [Token.isRaw, Token.isRaw, led.tok, beq_false_of_ne kind, Bool.false_and, Bool.false_and]

theorem Led.span_of_raw (led : Led chosen lead code code' token token') (raw : token.isRaw = true)
    (still : ∀ i, lineAt code token.offset < i → i ≤ lineAt code (token.offset + token.width) →
      chosen i = false) : token'.span code' = token.span code := by
  have isText : token.isText = true := by
    rw [Token.isText, (Bool.and_eq_true_iff.mp raw).1, Bool.true_or]
  rw [led.span isText]
  refine Text.leadLines_still fun i above below => still i above ?_
  rwa [Text.lineAt_add]

/-- A comment has the same bytes behind its mark, up to the lines in it that are led. -/
theorem Led.span_of_comment (led : Led chosen lead code code' token token') (read : token.ReadAt code b rest)
    (comment : token.tok = .comment) :
    ∃ n, (token'.span code').drop 2 = leadLines chosen lead n ((token.span code).drop 2) := by
  have isText : token.isText = true := by simp [Token.isText, comment]
  obtain ⟨wide, c, behind, rfl, dark⟩ := lexeme_comment (read.tok.symm.trans comment)
  obtain ⟨width, same⟩ := Nat.exists_eq_add_of_le' wide
  have span : token.span code = b :: c :: behind.take width := by
    rw [Token.span, read.front, read.width, same, List.take_succ_cons, List.take_succ_cons]
  rw [led.span isText, span, Text.leadLines_cons read.dark, Text.leadLines_cons dark]
  exact ⟨_, rfl⟩

theorem exists_led {scanned others : List Token}
    (related : List.Forall₂ (Led chosen lead code code') scanned others) (member : token' ∈ others) :
    ∃ token ∈ scanned, Led chosen lead code code' token token' := by
  induction related with
  | nil => cases member
  | cons led _ ih =>
    rcases List.mem_cons.mp member with rfl | later
    · exact ⟨_, List.mem_cons_self, led⟩
    · obtain ⟨token, known, led⟩ := ih later
      exact ⟨token, List.mem_cons_of_mem _ known, led⟩

theorem rawSpans_led {scanned others : List Token}
    (related : List.Forall₂ (Led chosen lead code code') scanned others) (still : Still chosen code scanned)
    (read : ∀ token ∈ scanned, token.isText = true → ∃ b rest, token.ReadAt code b rest)
    (read' : ∀ token ∈ others, token.isText = true → ∃ b rest, token.ReadAt code' b rest) :
    (others.filter Token.isRaw).map (Token.span code') =
      (scanned.filter Token.isRaw).map (Token.span code) := by
  induction related with
  | nil => rfl
  | @cons token token' scanned others led _ ih =>
    obtain ⟨first, later⟩ := List.forall_mem_cons.mp read
    obtain ⟨first', later'⟩ := List.forall_mem_cons.mp read'
    have rest := ih still.later later later'
    have same := led.isRaw first first'
    cases raw : token.isRaw with
    | true =>
      rw [List.filter_cons_of_pos (same.trans raw), List.filter_cons_of_pos raw, List.map_cons, List.map_cons,
        rest, led.span_of_raw raw (still token List.mem_cons_self raw)]
    | false =>
      rw [List.filter_cons_of_neg (by simp [same, raw]), List.filter_cons_of_neg (by simp [raw]), rest]

/-! ### Marks at the front of a text -/

theorem operator?_byteOrderMark (rest : Text) : operator? (0xEF :: rest) = none := by
  have apart : ∀ entry ∈ operatorSpellings, entry.2.head?.any (· != 0xEF) = true := by decide +kernel
  rw [operator?, Option.map_eq_none_iff, List.find?_eq_none]
  intro entry member spelled
  obtain ⟨behind, same⟩ := List.isPrefixOf_iff_prefix.mp spelled
  have other := apart entry member
  cases spelling : entry.2 with
  | nil => simp [spelling] at other
  | cons c more =>
    rw [spelling, List.cons_append] at same
    rw [spelling, (List.cons.inj same).1] at other
    simp at other

theorem lexeme_byteOrderMark (rest : Text) :
    lexeme 0xEF (0xBB :: 0xBF :: rest) = { tok := .illegal, width := 3, flawed := true } := by
  have mark : Rune.decode 0xEF (0xBB :: 0xBF :: rest) = ⟨Char.ofNat 0xFEFF, 3⟩ := rfl
  have letter : isIdentStart (Char.ofNat 0xFEFF) = false := by decide +kernel
  rw [lexeme, mark, letter, operator?_byteOrderMark]
  rfl

theorem tokensFrom_byteOrderMark (offset : Nat) (t : Text) :
    ∃ token, token.tok = .illegal ∧
      tokensFrom 0 offset false (byteOrderMark ++ t) = token :: tokensFrom 0 (offset + 3) false t := by
  have lexed := lexeme_byteOrderMark t
  have flows : breaksLine false 0xEF (0xBB :: 0xBF :: t) = false := by
    rw [breaksLine, lexed]
    rfl
  have ends : endsAfter false 0xEF (0xBB :: 0xBF :: t) = false := by
    rw [endsAfter, flows, lexed]
    rfl
  obtain ⟨inside, scan⟩ := tokensFrom_lexeme (b := 0xEF) offset false (by decide) rfl (0xBB :: 0xBF :: t)
  refine ⟨lexemeToken offset 0xEF (0xBB :: 0xBF :: t), ?_, scan.trans ?_⟩
  · rw [lexemeToken, lexed]
  · rw [flows, ends, lexed]
    rfl

theorem isPrefixOf_leadLines {mark : Text} (straight : Text.newline ∉ mark) (n : Nat) (t : Text) :
    mark.isPrefixOf (leadLines chosen lead n t) = mark.isPrefixOf t := by
  rw [← isPrefixOf_firstLine straight, Text.firstLine_leadLines, isPrefixOf_firstLine straight]

/-- The text with `lead` in front of every chosen line. -/
def led (chosen : Nat → Bool) (lead code : Text) : Text :=
  (if chosen 0 then lead else []) ++ leadLines chosen lead 0 code

/-- A text that is not marked as being in sixteen-bit units is still none. -/
theorem isUtf16_led (chosen : Nat → Bool) (tabs : ∀ c ∈ lead, c = 0x09) (ordinary : isUtf16 code = false) :
    isUtf16 (led chosen lead code) = false := by
  have plain := tabs_of_chosen chosen tabs 0
  rw [led]
  cases front : (if chosen 0 then lead else []) with
  | nil =>
    rw [List.nil_append, isUtf16, isPrefixOf_leadLines (by decide), isPrefixOf_leadLines (by decide)]
    exact ordinary
  | cons c more =>
    rw [front] at plain
    obtain ⟨rfl, -⟩ := List.forall_mem_cons.mp plain
    rfl

theorem tokens_of_ordinary (ordinary : isUtf16 t = false) :
    tokens t = if byteOrderMark.isPrefixOf t then tokensFrom 3 0 false t else tokensFrom 0 0 false t := by
  rw [tokens, ordinary, if_neg Bool.false_ne_true]

/-- How scanning starts on the text with lines led. A byte order mark that is no longer at the front is an
illegal token of its own. -/
theorem tokens_start (tabs : ∀ c ∈ lead, c = 0x09) (ordinary : isUtf16 code = false) :
    ∃ start start' extra,
      tokens code = tokensFrom 0 start false (code.drop start) ∧ lineAt code start = 0 ∧
      (led chosen lead code).drop start' = leadLines chosen lead 0 (code.drop start) ∧
      tokens (led chosen lead code) =
        extra ++ tokensFrom 0 start' false (leadLines chosen lead 0 (code.drop start)) ∧
      ∀ token ∈ extra, token.tok = .illegal := by
  have ordinary' := isUtf16_led chosen tabs ordinary
  have plain := tabs_of_chosen chosen tabs 0
  rw [tokens_of_ordinary ordinary, tokens_of_ordinary ordinary', led]
  by_cases mark : byteOrderMark.isPrefixOf code = true
  · obtain ⟨rest, rfl⟩ := List.isPrefixOf_iff_prefix.mp mark
    have leading (rest : Text) : leadLines chosen lead 0 (byteOrderMark ++ rest) =
        byteOrderMark ++ leadLines chosen lead 0 rest := rfl
    rw [if_pos mark, leading]
    cases front : (if chosen 0 then lead else []) with
    | nil => exact ⟨3, 3, [], rfl, rfl, rfl, rfl, by simp⟩
    | cons c more =>
      rw [front] at plain
      have unmarked : ¬ byteOrderMark.isPrefixOf
          (c :: more ++ (byteOrderMark ++ leadLines chosen lead 0 rest)) = true := by
        rw [(List.forall_mem_cons.mp plain).1]
        simp [byteOrderMark]
      obtain ⟨token, illegal, scan⟩ := tokensFrom_byteOrderMark (c :: more).length
        (leadLines chosen lead 0 rest)
      refine ⟨3, (c :: more).length + 3, [token], rfl, rfl, ?_, ?_, List.forall_mem_singleton.mpr illegal⟩
      · rw [← List.drop_drop, List.drop_left]
        rfl
      · rw [if_neg unmarked, tokensFrom_tabs plain, Nat.zero_add]
        exact scan
  · rw [if_neg mark]
    cases front : (if chosen 0 then lead else []) with
    | nil =>
      rw [List.nil_append, isPrefixOf_leadLines (by decide), if_neg mark]
      exact ⟨0, 0, [], rfl, rfl, rfl, rfl, by simp⟩
    | cons c more =>
      rw [front] at plain
      have unmarked : ¬ byteOrderMark.isPrefixOf (c :: more ++ leadLines chosen lead 0 code) = true := by
        rw [(List.forall_mem_cons.mp plain).1]
        simp [byteOrderMark]
      refine ⟨0, (c :: more).length, [], rfl, rfl, List.drop_left, ?_, by simp⟩
      rw [if_neg unmarked, tokensFrom_tabs plain, Nat.zero_add]
      rfl

/-! ### Tokens and raw strings -/

theorem tokens_led (tabs : ∀ c ∈ lead, c = 0x09) (ordinary : isUtf16 code = false)
    (still : Still chosen code (tokens code)) :
    ∃ extra others, tokens (led chosen lead code) = extra ++ others ∧
      (∀ token ∈ extra, token.tok = .illegal) ∧
      List.Forall₂ (Led chosen lead code (led chosen lead code)) (tokens code) others := by
  obtain ⟨start, start', extra, scan, line, front', scan', illegal⟩ := tokens_start tabs ordinary
  rw [scan] at still ⊢
  exact ⟨extra, _, scan', illegal, tokensFrom_led tabs ⟨rfl, front', line⟩ still⟩

/-- The raw strings of a text, with their quotes. -/
def rawStrings (code : Text) : List Text :=
  ((tokens code).filter Token.isRaw).map (Token.span code)

theorem rawStrings_led (tabs : ∀ c ∈ lead, c = 0x09) (ordinary : isUtf16 code = false)
    (still : Still chosen code (tokens code)) : rawStrings (led chosen lead code) = rawStrings code := by
  obtain ⟨extra, others, scan, illegal, related⟩ := tokens_led tabs ordinary still
  have none : extra.filter Token.isRaw = [] := by
    refine List.filter_eq_nil_iff.mpr fun token member => ?_
    simp [Token.isRaw, illegal token member]
  rw [rawStrings, scan, List.filter_append, none, List.nil_append]
  refine rawSpans_led related still (fun token member => tokens_readAt member) fun token member => ?_
  exact tokens_readAt (scan ▸ List.mem_append_right extra member)

end SystemLoops.Source
