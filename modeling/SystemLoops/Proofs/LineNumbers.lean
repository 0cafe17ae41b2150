import SystemLoops.Source.LineMap

namespace SystemLoops

namespace Text

variable {b : UInt8} {t : Text} {i q k : Nat}

theorem lines_newline (rest : Text) : lines (newline :: rest) = [] :: lines rest := by
  rw [lines, splitOn, if_pos rfl, lines]

theorem lines_cons (dark : b ≠ newline) (rest : Text) :
    ∃ first others, lines rest = first :: others ∧ lines (b :: rest) = (b :: first) :: others := by
  obtain ⟨first, others, split⟩ := List.exists_cons_of_ne_nil (splitOn_ne_nil newline rest)
  refine ⟨first, others, split, ?_⟩
  rw [lines, splitOn, if_neg dark, split]

theorem length_lines (t : Text) : (lines t).length = t.count newline + 1 := by
  induction t with
  | nil => rfl
  | cons b rest ih =>
    by_cases feed : b = newline
    · rw [feed, lines_newline, List.length_cons, ih, List.count_cons_self]
    · obtain ⟨first, others, split, whole⟩ := lines_cons feed rest
      rw [List.count_cons_of_ne feed, ← ih, split, whole, List.length_cons, List.length_cons]

theorem newline_notMem_lines {line : Text} (member : line ∈ lines t) : newline ∉ line := by
  induction t generalizing line with
  | nil =>
    rw [List.mem_singleton.mp member]
    exact List.not_mem_nil
  | cons b rest ih =>
    by_cases feed : b = newline
    · rw [feed, lines_newline] at member
      rcases List.mem_cons.mp member with rfl | later
      · exact List.not_mem_nil
      · exact ih later
    · obtain ⟨first, others, split, whole⟩ := lines_cons feed rest
      rw [split] at ih
      rw [whole] at member
      rcases List.mem_cons.mp member with rfl | later
      · exact List.not_mem_cons_of_ne_of_not_mem (Ne.symm feed) (ih List.mem_cons_self)
      · exact ih (List.mem_cons_of_mem _ later)

theorem lines_append {line : Text} (straight : newline ∉ line) (rest : Text) :
    lines (line ++ newline :: rest) = line :: lines rest := by
  induction line with
  | nil => exact lines_newline rest
  | cons b line ih =>
    obtain ⟨dark, straight⟩ := List.ne_and_not_mem_of_not_mem_cons straight
    rw [List.cons_append, lines, splitOn, if_neg dark.symm, ← lines, ih straight]

theorem lines_of_straight {line : Text} (straight : newline ∉ line) : lines line = [line] := by
  induction line with
  | nil => rfl
  | cons b line ih =>
    obtain ⟨dark, straight⟩ := List.ne_and_not_mem_of_not_mem_cons straight
    rw [lines, splitOn, if_neg dark.symm, ← lines, ih straight]

theorem unlines_cons {pieces : List Text} (some : pieces ≠ []) (line : Text) :
    unlines (line :: pieces) = line ++ newline :: unlines pieces := by
  obtain ⟨next, others, rfl⟩ := List.exists_cons_of_ne_nil some
  rw [unlines, join_cons, unlines, join_cons, List.flatMap_cons, List.append_assoc, List.singleton_append]

theorem lines_unlines {pieces : List Text} (some : pieces ≠ [])
    (straight : ∀ line ∈ pieces, newline ∉ line) : lines (unlines pieces) = pieces := by
  induction pieces with
  | nil => exact absurd rfl some
  | cons line rest ih =>
    cases rest with
    | nil =>
      rw [unlines, join_cons, List.flatMap_nil, List.append_nil]
      exact lines_of_straight (straight line List.mem_cons_self)
    | cons next others =>
      have more := List.cons_ne_nil next others
      rw [unlines_cons more, lines_append (straight line List.mem_cons_self), ih more fun piece member =>
        straight piece (List.mem_cons_of_mem _ member)]

/-- The offset at which a line starts, lines counted from zero: past the earlier lines with their line
feeds. -/
def lineStart (t : Text) (i : Nat) : Nat :=
  total (((lines t).take i).map fun line => line.length + 1)

/-- The number of the line that holds an offset, counted from zero. -/
def lineAt (t : Text) (q : Nat) : Nat :=
  (t.take q).count newline

theorem lineStart_newline (rest : Text) (i : Nat) :
    lineStart (newline :: rest) (i + 1) = lineStart rest i + 1 := by
  rw [lineStart, lines_newline, List.take_succ_cons, List.map_cons, total_cons, Nat.add_comm]
  rfl

theorem lineStart_cons (dark : b ≠ newline) (rest : Text) (i : Nat) :
    lineStart (b :: rest) (i + 1) = lineStart rest (i + 1) + 1 := by
  obtain ⟨first, others, split, whole⟩ := lines_cons dark rest
  rw [lineStart, lineStart, split, whole, List.take_succ_cons, List.take_succ_cons, List.map_cons,
    List.map_cons, total_cons, total_cons, List.length_cons]
  omega

theorem lineStart_le_iff (known : i ≤ t.count newline) : lineStart t i ≤ q ↔ i ≤ lineAt t q := by
  induction t generalizing i q with
  | nil =>
    rw [List.count_nil, Nat.le_zero] at known
    subst known
    exact iff_of_true (Nat.zero_le q) (Nat.zero_le _)
  | cons b rest ih =>
    cases i with
    | zero => exact iff_of_true (Nat.zero_le q) (Nat.zero_le _)
    | succ i =>
      by_cases feed : b = newline
      · subst feed
        rw [List.count_cons_self] at known
        rw [lineStart_newline, lineAt]
        cases q with
        | zero => simp
        | succ q =>
          rw [List.take_succ_cons, List.count_cons_self, Nat.succ_le_succ_iff, Nat.succ_le_succ_iff]
          exact ih (Nat.le_of_succ_le_succ known)
      · rw [List.count_cons_of_ne feed] at known
        rw [lineStart_cons feed, lineAt]
        cases q with
        | zero => simp
        | succ q =>
          rw [List.take_succ_cons, List.count_cons_of_ne feed, Nat.succ_le_succ_iff]
          exact ih known

theorem lineAt_add (t : Text) (q k : Nat) :
    lineAt t (q + k) = lineAt t q + ((t.drop q).take k).count newline := by
  rw [lineAt, lineAt, List.take_add, List.count_append]

end Text

namespace Source

open Text (lineStart lineAt)

variable {size offset i p q : Nat} {t : Text}

/-- The starts on record after the first one are those of the lines that follow. -/
theorem lineStart_of_recorded (whole : offset + t.length = size)
    (recorded : (lineStartsFrom size offset t)[i]? = some p) :
    p = offset + lineStart t (i + 1) ∧ i < t.count Text.newline := by
  induction t generalizing offset i with
  | nil => simp [lineStartsFrom] at recorded
  | cons b rest ih =>
    have next : offset + 1 + rest.length = size := by
      rw [← whole, List.length_cons]
      omega
    rw [lineStartsFrom] at recorded
    by_cases feed : b = Text.newline
    · subst feed
      rw [Text.lineStart_newline, List.count_cons_self]
      split at recorded
      · cases i with
        | zero =>
          cases recorded
          exact ⟨rfl, Nat.succ_pos _⟩
        | succ i =>
          obtain ⟨start, known⟩ := ih next recorded
          exact ⟨by omega, Nat.succ_lt_succ known⟩
      · rename_i last
        -- The line feed is the last byte, so nothing is on record behind it.
        have empty : rest = [] := by
          rw [← List.length_eq_zero_iff]
          simp at last
          omega
        simp [empty, lineStartsFrom] at recorded
    · rw [if_neg (by simp [feed])] at recorded
      obtain ⟨start, known⟩ := ih next recorded
      rw [Text.lineStart_cons feed, List.count_cons_of_ne feed]
      exact ⟨by omega, known⟩

/-- Every line feed before an offset inside the text has a start on record. -/
theorem lineAt_le_recorded (whole : offset + t.length = size) (inside : q < t.length) :
    lineAt t q ≤ (lineStartsFrom size offset t).length := by
  induction t generalizing offset q with
  | nil => cases inside
  | cons b rest ih =>
    cases q with
    | zero => exact Nat.zero_le _
    | succ q =>
      have within : q < rest.length := Nat.lt_of_succ_lt_succ inside
      have next : offset + 1 + rest.length = size := by
        rw [← whole, List.length_cons]
        omega
      have later := ih next within
      rw [lineStartsFrom, lineAt, List.take_succ_cons]
      by_cases feed : b = Text.newline
      · subst feed
        rw [if_pos (by simp; omega), List.count_cons_self, List.length_cons]
        exact Nat.succ_le_succ later
      · rw [if_neg (by simp [feed]), List.count_cons_of_ne feed]
        exact later

namespace LineMap

/-- Bisection finds where the entries of an array grow past a value. -/
theorem countUpTo_eq {xs : Array Nat} {x bound low high steps : Nat}
    (cut : ∀ k, k < xs.size → (xs.getD k 0 ≤ x ↔ k < bound)) (above : low ≤ bound)
    (below : bound ≤ high) (inside : high ≤ xs.size) (enough : high - low ≤ steps) :
    countUpTo xs x steps low high = bound := by
  induction steps generalizing low high with
  | zero =>
    rw [countUpTo]
    omega
  | succ steps ih =>
    rw [countUpTo]
    by_cases wide : low < high
    · have known : (low + high) / 2 < xs.size := by omega
      rw [if_pos wide]
      by_cases small : xs.getD ((low + high) / 2) 0 ≤ x
      · have before := (cut _ known).mp small
        rw [if_pos small]
        exact ih before below inside (by omega)
      · have after : ¬ (low + high) / 2 < bound := fun before => small ((cut _ known).mpr before)
        rw [if_neg small]
        exact ih above (by omega) (by omega) (by omega)
    · rw [if_neg wide]
      omega

/-- Without renumbering, lines are counted by the line feeds before an offset. -/
theorem rawLine_plain {source : Text} (name : Text) (inside : q < source.length) :
    (plain name source).rawLine q = lineAt source q + 1 := by
  have recorded := lineAt_le_recorded (Nat.zero_add source.length) inside
  refine countUpTo_eq (fun k known => ?_) (Nat.zero_le _) ?_ (Nat.le_refl _) (Nat.le_refl _)
  · cases k with
    | zero => exact iff_of_true (Nat.zero_le q) (Nat.succ_pos _)
    | succ k =>
      have within : k < (lineStartsFrom source.length 0 source).length := by simpa [plain] using known
      obtain ⟨start, real⟩ := lineStart_of_recorded (Nat.zero_add source.length)
        (List.getElem?_eq_getElem within)
      have entry : (plain name source).starts.getD (k + 1) 0 = Text.lineStart source (k + 1) := by
        rw [Array.getD_eq_getD_getElem?, plain, List.getElem?_toArray, List.getElem?_cons_succ,
          List.getElem?_eq_getElem within, Option.getD_some, start, Nat.zero_add]
      rw [entry, Text.lineStart_le_iff real]
      omega
  · simpa [plain] using recorded

end LineMap

end Source

end SystemLoops
