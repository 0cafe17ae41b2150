import SystemLoops.Proofs.LineNumbers
import SystemLoops.Proofs.TokenSpans

namespace SystemLoops

namespace Text

variable {chosen : Nat → Bool} {lead : Text} {b : UInt8} {n k : Nat} {r t : Text}

/-- The text after a place in line `n`, with `lead` in front of every chosen line that starts there. -/
def leadLines (chosen : Nat → Bool) (lead : Text) : (n : Nat) → Text → Text
  | _, [] => []
  | n, b :: rest =>
    if b = newline then
      b :: ((if chosen (n + 1) then lead else []) ++ leadLines chosen lead (n + 1) rest)
    else b :: leadLines chosen lead n rest

theorem leadLines_newline (rest : Text) :
    leadLines chosen lead n (newline :: rest) =
      newline :: ((if chosen (n + 1) then lead else []) ++ leadLines chosen lead (n + 1) rest) :=
  if_pos rfl

theorem leadLines_cons (dark : b ≠ newline) (rest : Text) :
    leadLines chosen lead n (b :: rest) = b :: leadLines chosen lead n rest :=
  if_neg dark

theorem leadLines_append (r t : Text) :
    leadLines chosen lead n (r ++ t) =
      leadLines chosen lead n r ++ leadLines chosen lead (n + r.count newline) t := by
  induction r generalizing n with
  | nil => rfl
  | cons b r ih =>
    by_cases feed : b = newline
    · subst feed
      rw [List.cons_append, leadLines_newline, leadLines_newline, ih, List.count_cons_self, List.cons_append,
        List.append_assoc, Nat.add_right_comm, Nat.add_assoc]
    · rw [List.cons_append, leadLines_cons feed, leadLines_cons feed, ih, List.count_cons_of_ne feed,
        List.cons_append]

theorem leadLines_still (still : ∀ i, n < i → i ≤ n + t.count newline → chosen i = false) :
    leadLines chosen lead n t = t := by
  induction t generalizing n with
  | nil => rfl
  | cons b rest ih =>
    by_cases feed : b = newline
    · subst feed
      rw [List.count_cons_self] at still
      rw [leadLines_newline, still (n + 1) (Nat.lt_succ_self n) (by omega), ih]
      · rfl
      · exact fun i above below => still i (by omega) (by omega)
    · rw [List.count_cons_of_ne feed] at still
      rw [leadLines_cons feed, ih still]

theorem leadLines_straight (straight : newline ∉ t) : leadLines chosen lead n t = t :=
  leadLines_still fun i above below => by
    rw [List.count_eq_zero_of_not_mem straight] at below
    omega

theorem head?_leadLines (t : Text) : (leadLines chosen lead n t).head? = t.head? := by
  cases t with
  | nil => rfl
  | cons b rest =>
    rw [leadLines]
    split <;> rfl

theorem firstLine_leadLines (t : Text) : firstLine (leadLines chosen lead n t) = firstLine t := by
  induction t with
  | nil => rfl
  | cons b rest ih =>
    by_cases feed : b = newline
    · rw [feed, leadLines_newline, firstLine_newline, firstLine_newline]
    · rw [leadLines_cons feed, firstLine_cons feed, firstLine_cons feed, ih]

theorem newline_mem_leadLines (t : Text) : newline ∈ leadLines chosen lead n t ↔ newline ∈ t := by
  by_cases feed : newline ∈ t
  · obtain ⟨before, behind, split⟩ := List.append_of_mem feed
    refine iff_of_true ?_ feed
    rw [split, leadLines_append, leadLines_newline]
    exact List.mem_append_right _ List.mem_cons_self
  · rw [leadLines_straight feed]

theorem unlines_led (chosen : Nat → Bool) (lead : Text) (n : Nat) (t : Text) :
    unlines ((lines t).mapIdx fun j line => (if chosen (n + j) then lead else []) ++ line) =
      (if chosen n then lead else []) ++ leadLines chosen lead n t := by
  have later (m : Nat) : (fun (j : Nat) (line : Text) => (if chosen (m + (j + 1)) then lead else []) ++ line) =
      fun j line => (if chosen (m + 1 + j) then lead else []) ++ line := by
    funext j line
    rw [Nat.add_assoc m 1 j, Nat.add_comm 1 j]
  induction t generalizing n with
  | nil => simp [lines, splitOn, unlines, join_cons, leadLines]
  | cons b rest ih =>
    by_cases feed : b = newline
    · subst feed
      rw [lines_newline, List.mapIdx_cons, leadLines_newline, later, ← ih, List.append_nil, Nat.add_zero]
      refine unlines_cons ?_ _
      rw [ne_eq, List.mapIdx_eq_nil_iff]
      exact splitOn_ne_nil newline rest
    · obtain ⟨first, others, split, whole⟩ := lines_cons feed rest
      have same := ih n
      rw [split, List.mapIdx_cons, unlines, join_cons, List.append_assoc, Nat.add_zero] at same
      rw [whole, List.mapIdx_cons, unlines, join_cons, leadLines_cons feed, List.append_assoc, Nat.add_zero,
        List.cons_append, List.append_cancel_left same]

end Text

namespace Source

open Text (leadLines)

variable {chosen : Nat → Bool} {lead : Text} {b : UInt8} {n : Nat} {rest t : Text}

theorem rawExtent_leadLines
    (still : ∀ i, n < i → i ≤ n + (t.take (rawExtent t).width).count Text.newline → chosen i = false) :
    rawExtent (leadLines chosen lead n t) = rawExtent t := by
  induction t generalizing n with
  | nil => rfl
  | cons b rest ih =>
    by_cases closed : (b == backquote) = true
    · have dark : b ≠ Text.newline := by
        rw [beq_iff_eq.mp closed]
        decide
      rw [Text.leadLines_cons dark, rawExtent, rawExtent, if_pos closed, if_pos closed]
    · rw [rawExtent, if_neg closed, Extent.grow, List.take_succ_cons] at still
      by_cases feed : b = Text.newline
      · subst feed
        rw [List.count_cons_self] at still
        rw [Text.leadLines_newline, still (n + 1) (Nat.lt_succ_self n) (by omega), rawExtent, rawExtent,
          if_neg closed, if_neg closed]
        refine congrArg Extent.grow (ih fun i above below => still i ?_ ?_)
        · omega
        · omega
      · rw [List.count_cons_of_ne feed] at still
        rw [Text.leadLines_cons feed, rawExtent, rawExtent, if_neg closed, if_neg closed, ih still]

theorem blockExtent_append (plain : ∀ c ∈ lead, c ≠ 0x2A) (t : Text) :
    blockExtent (lead ++ t) = { blockExtent t with width := lead.length + (blockExtent t).width } := by
  induction lead with
  | nil => simp
  | cons c lead ih =>
    obtain ⟨first, others⟩ := List.forall_mem_cons.mp plain
    rw [List.cons_append, blockExtent, beq_false_of_ne first, Bool.false_and, if_neg Bool.false_ne_true,
      ih others, Extent.grow, List.length_cons, Nat.add_right_comm]

theorem blockExtent_leadLines (plain : ∀ c ∈ lead, c ≠ 0x2A) (t : Text) :
    blockExtent (leadLines chosen lead n t) =
      { blockExtent t with
        width := (leadLines chosen lead n (t.take (blockExtent t).width)).length } := by
  induction t generalizing n with
  | nil => rfl
  | cons b rest ih =>
    by_cases closed : (b == 0x2A && rest.head? == some 0x2F) = true
    · obtain ⟨star, slash⟩ := Bool.and_eq_true_iff.mp closed
      obtain ⟨behind, rfl⟩ := List.head?_eq_some_iff.mp (beq_iff_eq.mp slash)
      rw [beq_iff_eq.mp star, Text.leadLines_cons (by decide), Text.leadLines_cons (by decide)]
      rfl
    · rw [blockExtent.eq_2 b rest, if_neg closed, Extent.grow, List.take_succ_cons]
      by_cases feed : b = Text.newline
      · subst feed
        have front : ∀ c ∈ (if chosen (n + 1) then lead else []), c ≠ 0x2A := by
          split
          · exact plain
          · simp
        rw [Text.leadLines_newline, Text.leadLines_newline, blockExtent,
          beq_false_of_ne (by decide : Text.newline ≠ 0x2A), Bool.false_and, if_neg Bool.false_ne_true,
          blockExtent_append front, ih, Extent.grow, List.length_cons, List.length_append]
      · rw [Text.leadLines_cons feed, Text.leadLines_cons feed, blockExtent, Text.head?_leadLines,
          if_neg closed, ih, Extent.grow, List.length_cons]

theorem lexeme_leadLines (dark : b ≠ Text.newline) (plain : ∀ c ∈ lead, c ≠ 0x2A)
    (still : b = backquote → ∀ i, n < i →
      i ≤ n + ((b :: rest).take (lexeme b rest).width).count Text.newline → chosen i = false) :
    lexeme b (leadLines chosen lead n rest) =
      { lexeme b rest with
        width := (leadLines chosen lead n ((b :: rest).take (lexeme b rest).width)).length } := by
  cases wraps : mayWrap b rest with
  | false =>
    have wraps' : mayWrap b (leadLines chosen lead n rest) = false := by
      rw [mayWrap, Text.head?_leadLines]
      exact wraps
    obtain ⟨same, short⟩ := lexeme_firstLine dark rest wraps
    obtain ⟨same', -⟩ := lexeme_firstLine dark (leadLines chosen lead n rest) wraps'
    have straight : Text.newline ∉ (b :: rest).take (lexeme b rest).width := by
      rw [← Text.firstLine_take (by rw [Text.firstLine_cons dark]; exact short)]
      exact fun member => Text.newline_notMem_firstLine _ (List.mem_of_mem_take member)
    rw [← same', Text.firstLine_leadLines, same, Text.leadLines_straight straight, List.length_take,
      List.length_cons, Nat.min_eq_left (lexeme_width_le dark rest)]
  | true =>
    rcases mayWrap_cases wraps with rfl | ⟨behind, rfl, rfl⟩
    · have inner := still rfl
      rw [lexeme_backquote, List.take_succ_cons, List.count_cons_of_ne dark] at inner
      rw [lexeme_backquote, lexeme_backquote, rawExtent_leadLines inner, List.take_succ_cons,
        Text.leadLines_cons dark, Text.leadLines_still inner, List.length_cons, List.length_take,
        Nat.min_eq_left (rawExtent_width_le rest)]
    · rw [Text.leadLines_cons (by decide), lexeme_blockComment, lexeme_blockComment,
        blockExtent_leadLines plain]
      dsimp only
      rw [Nat.add_comm 2, Nat.add_comm 2, List.take_succ_cons, List.take_succ_cons, Text.leadLines_cons dark,
        Text.leadLines_cons (by decide), List.length_cons, List.length_cons]

end Source

end SystemLoops
