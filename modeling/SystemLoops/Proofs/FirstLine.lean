import SystemLoops.Source.Lexeme

namespace SystemLoops

namespace Text

variable {b : UInt8} {t : Text} {k : Nat}

def firstLine (t : Text) : Text :=
  t.takeWhile (· != newline)

theorem firstLine_newline (rest : Text) : firstLine (newline :: rest) = [] :=
  rfl

theorem firstLine_cons (dark : b ≠ newline) (rest : Text) : firstLine (b :: rest) = b :: firstLine rest :=
  List.takeWhile_cons_of_pos (by simpa using dark)

theorem newline_notMem_firstLine (t : Text) : newline ∉ firstLine t := by
  intro member
  have dark : ∀ b ∈ firstLine t, (b != newline) = true := List.all_eq_true.mp List.all_takeWhile
  simpa using dark newline member

theorem firstLine_drop (within : k ≤ (firstLine t).length) :
    firstLine (t.drop k) = (firstLine t).drop k := by
  induction t generalizing k with
  | nil => simp [firstLine]
  | cons b rest ih =>
    cases k with
    | zero => rfl
    | succ k =>
      by_cases feed : b = newline
      · subst feed
        simp [firstLine_newline] at within
      · rw [firstLine_cons feed] at within ⊢
        exact ih (by simpa using within)

theorem firstLine_take (within : k ≤ (firstLine t).length) : (firstLine t).take k = t.take k := by
  obtain ⟨behind, split⟩ := List.takeWhile_prefix (l := t) (· != newline)
  rw [← firstLine] at split
  rw [← congrArg (List.take k) split, List.take_append_of_le_length within]

theorem takeWhile_firstLine {more : UInt8 → Bool} (stop : more newline = false) (t : Text) :
    (firstLine t).takeWhile more = t.takeWhile more := by
  induction t with
  | nil => rfl
  | cons b rest ih =>
    by_cases feed : b = newline
    · rw [feed, firstLine_newline, List.takeWhile_cons_of_neg (by simp [stop]), List.takeWhile_nil]
    · rw [firstLine_cons feed, List.takeWhile_cons, List.takeWhile_cons, ih]

theorem head?_firstLine (t : Text) :
    (firstLine t).head? = t.head? ∨ (firstLine t).head? = none ∧ t.head? = some newline := by
  cases t with
  | nil => exact .inl rfl
  | cons b rest =>
    by_cases feed : b = newline
    · subst feed
      exact .inr ⟨rfl, rfl⟩
    · rw [firstLine_cons feed]
      exact .inl rfl

theorem getElem?_firstLine (within : k ≤ (firstLine t).length) :
    (firstLine t)[k]? = t[k]? ∨ (firstLine t)[k]? = none ∧ t[k]? = some newline := by
  have first := head?_firstLine (t.drop k)
  rwa [firstLine_drop within, List.head?_drop, List.head?_drop] at first

theorem head?_firstLine_beq {c : UInt8} (dark : c ≠ newline) (t : Text) :
    ((firstLine t).head? == some c) = (t.head? == some c) := by
  rcases head?_firstLine t with same | ⟨none, feed⟩
  · rw [same]
  · simp [none, feed, dark.symm]

end Text

open Text (firstLine firstLine_cons firstLine_newline firstLine_drop takeWhile_firstLine)

theorem Rune.decode_firstLine (b : UInt8) (rest : Text) : decode b (firstLine rest) = decode b rest := by
  refine decode_takeWhile (fun c stop => ?_) b rest
  have feed : c = Text.newline := by simpa using stop
  subst feed
  decide

theorem decode_width_firstLine (b : UInt8) (rest : Text) :
    (Rune.decode b rest).width - 1 ≤ (firstLine rest).length := by
  have width := (Rune.decode_width b (firstLine rest)).2
  rw [Rune.decode_firstLine] at width
  exact Nat.sub_le_of_le_add width

namespace Source

variable {b mark : UInt8} {t : Text} {skip : Nat}

/-! ### Words and quoted literals -/

theorem identWidth_newline (rest : Text) : identWidth 0 (Text.newline :: rest) = 0 := by
  have apart : isIdentPart (Rune.decode Text.newline rest).char = false := by
    change isIdentPart '\n' = false
    decide +kernel
  rw [identWidth]
  simp [apart]

theorem identWidth_firstLine (within : skip ≤ (firstLine t).length) :
    identWidth skip (firstLine t) = identWidth skip t ∧ identWidth skip t ≤ (firstLine t).length := by
  induction t generalizing skip with
  | nil => cases skip <;> simp [firstLine, identWidth]
  | cons b rest ih =>
    by_cases feed : b = Text.newline
    · subst feed
      have none : skip = 0 := by simpa [firstLine_newline] using within
      subst none
      rw [identWidth_newline, firstLine_newline]
      exact ⟨rfl, Nat.le_refl 0⟩
    · rw [firstLine_cons feed] at within ⊢
      cases skip with
      | succ skip =>
        obtain ⟨same, short⟩ := ih (Nat.le_of_succ_le_succ within)
        exact ⟨congrArg (· + 1) same, Nat.succ_le_succ short⟩
      | zero =>
        obtain ⟨same, short⟩ := ih (decode_width_firstLine b rest)
        simp only [identWidth, Rune.decode_firstLine, same, true_and]
        split
        · exact Nat.succ_le_succ short
        · exact Nat.zero_le _

theorem escapeDigits_firstLine (base digits limit lead : Nat) (t : Text) :
    escapeDigits base digits limit lead (firstLine t) = escapeDigits base digits limit lead t ∧
      (escapeDigits base digits limit lead t).width ≤ lead + (firstLine t).length := by
  have taken {valid : UInt8 → Bool} (stop : valid Text.newline = false) :
      ((firstLine t).take digits).takeWhile valid = (t.take digits).takeWhile valid := by
    rw [← List.take_takeWhile, ← List.take_takeWhile, takeWhile_firstLine stop]
  have same : escapeDigits base digits limit lead (firstLine t) =
      escapeDigits base digits limit lead t := by
    simp only [escapeDigits]
    rw [taken]
    rfl
  refine ⟨same, same ▸ Nat.add_le_add_left ?_ lead⟩
  exact Nat.le_trans (List.takeWhile_prefix _).length_le (List.length_take_le' _ _)

theorem escape_firstLine (plain : mark ≠ Text.newline) (t : Text) :
    escape mark (firstLine t) = escape mark t ∧ (escape mark t).width ≤ (firstLine t).length := by
  cases t with
  | nil => exact ⟨rfl, Nat.le_refl 0⟩
  | cons b rest =>
    by_cases feed : b = Text.newline
    · subst feed
      have apart : (Text.newline == mark) = false := beq_false_of_ne plain.symm
      have none : escape mark (Text.newline :: rest) = ⟨0, false⟩ := by
        rw [escape, apart]
        rfl
      rw [none, firstLine_newline]
      exact ⟨rfl, Nat.le_refl 0⟩
    · have whole := escapeDigits_firstLine 8 3 255 0 (b :: rest)
      rw [firstLine_cons feed] at whole ⊢
      simp only [escape]
      split
      · exact ⟨rfl, Nat.le_add_left 1 _⟩
      · split
        · exact ⟨whole.1, by simpa using whole.2⟩
        · have hex (digits limit : Nat) :
              escapeDigits 16 digits limit 1 (firstLine rest) = escapeDigits 16 digits limit 1 rest ∧
                (escapeDigits 16 digits limit 1 rest).width ≤ (firstLine rest).length + 1 := by
            rw [Nat.add_comm]
            exact escapeDigits_firstLine 16 digits limit 1 rest
          split
          · exact hex 2 255
          · split
            · exact hex 4 0x10FFFF
            · split
              · exact hex 8 0x10FFFF
              · exact ⟨rfl, Nat.zero_le _⟩

theorem quotedExtent_firstLine (plain : mark ≠ Text.newline) (within : skip ≤ (firstLine t).length) :
    quotedExtent mark skip (firstLine t) = quotedExtent mark skip t ∧
      (quotedExtent mark skip t).width ≤ (firstLine t).length := by
  induction t generalizing skip with
  | nil => cases skip <;> simp [firstLine, quotedExtent]
  | cons b rest ih =>
    by_cases feed : b = Text.newline
    · subst feed
      have none : skip = 0 := by simpa [firstLine_newline] using within
      subst none
      exact ⟨rfl, Nat.le_refl 0⟩
    · rw [firstLine_cons feed] at within ⊢
      cases skip with
      | succ skip =>
        obtain ⟨same, short⟩ := ih (Nat.le_of_succ_le_succ within)
        exact ⟨congrArg Extent.grow same, Nat.succ_le_succ short⟩
      | zero =>
        have dark : (b == Text.newline) = false := beq_false_of_ne feed
        simp only [quotedExtent, Rune.decode_firstLine, (escape_firstLine plain rest).1, dark,
          Bool.false_eq_true, if_false]
        split
        · exact ⟨rfl, Nat.le_add_left 1 _⟩
        · split
          · obtain ⟨same, short⟩ := ih (escape_firstLine plain rest).2
            rw [same]
            exact ⟨rfl, Nat.succ_le_succ short⟩
          · obtain ⟨same, short⟩ := ih (decode_width_firstLine b rest)
            rw [same]
            exact ⟨rfl, Nat.succ_le_succ short⟩

/-! ### Numbers -/

theorem digitRun_firstLine (radix : Radix) {k : Nat} (within : k ≤ (firstLine t).length) :
    digitRun radix ((firstLine t).drop k) = digitRun radix (t.drop k) ∧
      k + (digitRun radix (t.drop k)).length ≤ (firstLine t).length := by
  have same : digitRun radix ((firstLine t).drop k) = digitRun radix (t.drop k) := by
    rw [← firstLine_drop within]
    exact takeWhile_firstLine (by cases radix <;> decide) (t.drop k)
  have short : (digitRun radix ((firstLine t).drop k)).length ≤ ((firstLine t).drop k).length :=
    (List.takeWhile_prefix _).length_le
  rw [same, List.length_drop] at short
  exact ⟨same, Nat.add_le_of_le_sub' within short⟩

theorem byteAt_firstLine {c : UInt8} (dark : c ≠ Text.newline) {k : Nat}
    (within : k ≤ (firstLine t).length) :
    ((firstLine t)[k]? == some c) = (t[k]? == some c) ∧
      ((t[k]? == some c) = true → k + 1 ≤ (firstLine t).length) := by
  have same : ((firstLine t)[k]? == some c) = (t[k]? == some c) := by
    rw [← List.head?_drop, ← List.head?_drop, ← firstLine_drop within]
    exact Text.head?_firstLine_beq dark _
  refine ⟨same, fun found => ?_⟩
  rw [← same, beq_iff_eq] at found
  exact (List.getElem?_eq_some_iff.mp found).1

theorem letterAt_firstLine {c : UInt8} (dark : c ≠ lower Text.newline) {k : Nat}
    (within : k ≤ (firstLine t).length) :
    ((firstLine t)[k]?.map lower == some c) = (t[k]?.map lower == some c) ∧
      ((t[k]?.map lower == some c) = true → k + 1 ≤ (firstLine t).length) := by
  have same : ((firstLine t)[k]?.map lower == some c) = (t[k]?.map lower == some c) := by
    rcases Text.getElem?_firstLine within with same | ⟨none, feed⟩
    · rw [same]
    · simp [none, feed, dark.symm]
  refine ⟨same, fun found => ?_⟩
  rw [← same, beq_iff_eq] at found
  obtain ⟨b, read, -⟩ := Option.map_eq_some_iff.mp found
  exact (List.getElem?_eq_some_iff.mp read).1

theorem radix_firstLine (t : Text) :
    Radix.read (firstLine t) = Radix.read t ∧ (Radix.read t).2 ≤ (firstLine t).length := by
  have one (b : UInt8) : (Radix.read [b]).2 ≤ 1 := by
    simp only [Radix.read]
    split
    · exact Nat.le_refl 1
    · exact Nat.zero_le 1
  have two (b c : UInt8) (rest : Text) : (Radix.read (b :: c :: rest)).2 ≤ 2 := by
    simp only [Radix.read]
    repeat' split
    all_goals decide
  have unmarked (b : UInt8) (rest : Text) : Radix.read (b :: Text.newline :: rest) = Radix.read [b] := rfl
  match t with
  | [] => exact ⟨rfl, Nat.le_refl 0⟩
  | b :: rest =>
    by_cases feed : b = Text.newline
    · subst feed
      exact ⟨rfl, Nat.le_refl 0⟩
    · rw [firstLine_cons feed]
      match rest with
      | [] => exact ⟨rfl, one b⟩
      | c :: rest =>
        by_cases next : c = Text.newline
        · subst next
          rw [firstLine_newline, unmarked]
          exact ⟨rfl, one b⟩
        · rw [firstLine_cons next]
          exact ⟨rfl, Nat.le_trans (two b c rest) (Nat.le_add_left 2 _)⟩

theorem mantissa_firstLine (t : Text) :
    Mantissa.read (firstLine t) = Mantissa.read t ∧ (Mantissa.read t).width ≤ (firstLine t).length := by
  obtain ⟨same, lead⟩ := radix_firstLine t
  obtain ⟨whole, point⟩ := digitRun_firstLine (Radix.read t).1 lead
  obtain ⟨marked, more⟩ := byteAt_firstLine (c := 0x2E) (by decide) point
  simp only [Mantissa.read, same, whole, marked]
  split
  · rename_i found
    obtain ⟨fraction, fits⟩ := digitRun_firstLine (Radix.read t).1 (more found)
    rw [fraction]
    exact ⟨rfl, fits⟩
  · exact ⟨rfl, point⟩

theorem exponent_firstLine {start : Nat} (within : start ≤ (firstLine t).length) :
    Exponent.read? (firstLine t) start = Exponent.read? t start ∧
      start + ((Exponent.read? t start).map Exponent.width).getD 0 ≤ (firstLine t).length := by
  obtain ⟨hex, afterHex⟩ := letterAt_firstLine (c := 0x70) (by decide) within
  obtain ⟨plain, afterPlain⟩ := letterAt_firstLine (c := 0x65) (by decide) within
  simp only [Exponent.read?, hex, plain]
  split
  · rename_i found
    have next : start + 1 ≤ (firstLine t).length := by
      rcases Bool.or_eq_true _ _ ▸ found with mark | mark
      · exact afterHex mark
      · exact afterPlain mark
    obtain ⟨plus, afterPlus⟩ := byteAt_firstLine (c := 0x2B) (by decide) next
    obtain ⟨minus, afterMinus⟩ := byteAt_firstLine (c := 0x2D) (by decide) next
    simp only [plus, minus]
    have digits (sign : Nat) (fits : start + 1 + sign ≤ (firstLine t).length) :=
      digitRun_firstLine .decimal fits
    split
    · rename_i signed
      have behind : start + 1 + 1 ≤ (firstLine t).length := by
        rcases Bool.or_eq_true _ _ ▸ signed with mark | mark
        · exact afterPlus mark
        · exact afterMinus mark
      rw [(digits 1 behind).1]
      exact ⟨rfl, by simpa [Nat.add_assoc] using (digits 1 behind).2⟩
    · rw [(digits 0 next).1]
      exact ⟨rfl, by simpa [Nat.add_assoc] using (digits 0 next).2⟩
  · exact ⟨rfl, within⟩

theorem number_firstLine (t : Text) :
    number (firstLine t) = number t ∧ (number t).width ≤ (firstLine t).length := by
  obtain ⟨mantissa, whole⟩ := mantissa_firstLine t
  obtain ⟨exponent, size⟩ := exponent_firstLine whole
  obtain ⟨mark, more⟩ := byteAt_firstLine (c := 0x69) (by decide) size
  have short : (number t).width ≤ (firstLine t).length := by
    simp only [number]
    split
    · rename_i found
      exact more found
    · exact size
  refine ⟨?_, short⟩
  have spelled := Text.firstLine_take short
  simp only [number] at spelled ⊢
  simp only [mantissa, exponent, mark, spelled]

/-! ### Lexemes -/

theorem isPrefixOf_firstLine {s : Text} (straight : Text.newline ∉ s) (t : Text) :
    s.isPrefixOf (firstLine t) = s.isPrefixOf t := by
  induction s generalizing t with
  | nil => rfl
  | cons c s ih =>
    obtain ⟨first, others⟩ := List.ne_and_not_mem_of_not_mem_cons straight
    cases t with
    | nil => rfl
    | cons b rest =>
      by_cases feed : b = Text.newline
      · subst feed
        rw [firstLine_newline, List.isPrefixOf_cons_cons, beq_false_of_ne first.symm, Bool.false_and]
        rfl
      · rw [firstLine_cons feed, List.isPrefixOf_cons_cons, List.isPrefixOf_cons_cons, ih others]

theorem operatorSpellings_straight : ∀ entry ∈ operatorSpellings, Text.newline ∉ entry.2 := by
  decide +kernel

theorem operator?_firstLine (t : Text) :
    operator? (firstLine t) = operator? t ∧ ∀ op ∈ operator? t, op.width ≤ (firstLine t).length := by
  have same : operator? (firstLine t) = operator? t := by
    unfold operator?
    rw [← List.head?_filter, ← List.head?_filter, List.filter_congr fun entry member =>
      isPrefixOf_firstLine (operatorSpellings_straight entry member) t]
  refine ⟨same, fun op found => ?_⟩
  rw [← same] at found
  obtain ⟨entry, first, rfl⟩ := Option.map_eq_some_iff.mp found
  have spelled : entry.2.isPrefixOf (firstLine t) = true :=
    List.find?_some (p := fun entry : Tok × Text => entry.2.isPrefixOf (firstLine t)) first
  exact (List.isPrefixOf_iff_prefix.mp spelled).length_le

theorem lineCommentWidth_firstLine {rest : Text} (second : rest.head? = some 0x2F) :
    lineCommentWidth ((firstLine rest).drop 1) = lineCommentWidth (rest.drop 1) ∧
      2 + lineCommentWidth (rest.drop 1) ≤ (firstLine rest).length + 1 := by
  obtain ⟨behind, rfl⟩ := List.head?_eq_some_iff.mp second
  rw [firstLine_cons (by decide)]
  refine ⟨congrArg List.length (takeWhile_firstLine (by decide) behind), ?_⟩
  rw [Nat.add_comm]
  exact Nat.le_refl _

/-- Whether a lexeme that starts with byte `b` may run over line feeds: a raw string or a block comment. -/
def mayWrap (b : UInt8) (rest : Text) : Bool :=
  b == backquote || (b == 0x2F && rest.head? == some 0x2A)

theorem lexeme_firstLine (dark : b ≠ Text.newline) (rest : Text) (straight : mayWrap b rest = false) :
    lexeme b (firstLine rest) = lexeme b rest ∧ (lexeme b rest).width ≤ (firstLine rest).length + 1 := by
  obtain ⟨quote, star⟩ := Bool.or_eq_false_iff.mp straight
  have second (c : UInt8) (apart : c ≠ Text.newline) := Text.head?_firstLine_beq apart rest
  have width := decode_width_firstLine b rest
  obtain ⟨word, shortWord⟩ := identWidth_firstLine width
  have spelled := Text.firstLine_take shortWord
  obtain ⟨number, shortNumber⟩ := number_firstLine (b :: rest)
  obtain ⟨operator, shortOperator⟩ := operator?_firstLine (b :: rest)
  rw [firstLine_cons dark] at number shortNumber operator shortOperator
  obtain ⟨quoted, shortQuoted⟩ := quotedExtent_firstLine dark (Nat.zero_le (firstLine rest).length)
  have decimal : (firstLine rest).head?.any Text.isDecimal = rest.head?.any Text.isDecimal := by
    rcases Text.head?_firstLine rest with same | ⟨none, feed⟩
    · rw [same]
    · rw [none, feed]
      rfl
  simp only [lexeme, Rune.decode_firstLine, Nat.add_sub_cancel, word, spelled, decimal, number, operator,
    quoted, second 0x2F (by decide), second 0x2A (by decide), quote, star, Bool.false_eq_true, if_false]
  split
  · split
    · exact ⟨rfl, Nat.succ_le_succ shortWord⟩
    · exact ⟨rfl, Nat.succ_le_succ shortWord⟩
  · split
    · exact ⟨rfl, shortNumber⟩
    · split
      · exact ⟨rfl, Nat.succ_le_succ shortQuoted⟩
      · split
        · exact ⟨rfl, Nat.succ_le_succ shortQuoted⟩
        · split
          · rename_i slashes
            obtain ⟨-, second⟩ := Bool.and_eq_true_iff.mp slashes
            obtain ⟨comment, shortComment⟩ := lineCommentWidth_firstLine (beq_iff_eq.mp second)
            rw [comment]
            exact ⟨rfl, shortComment⟩
          · split
            · rename_i op found
              exact ⟨rfl, shortOperator op found⟩
            · exact ⟨rfl, Nat.le_add_of_sub_le width⟩

end Source

end SystemLoops
