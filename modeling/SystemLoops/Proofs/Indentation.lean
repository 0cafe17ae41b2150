import SystemLoops.Proofs.LedTokens
import SystemLoops.Source.Indent

/-!
Indentation and raw strings. Indentation protects lines by the numbers that messages show, so a comment that
renumbers lines moves the protection away from the raw strings. Main statement: a text is indented around its
raw strings exactly if the protected lines are those that start in raw strings, which is so whenever no comment
is worded as a renumbering, and then no number of indentations, one in the other, changes a raw string.
-/

namespace SystemLoops.Source

open Text (leadLines lineAt lineStart)

variable {code : Text} {token : Token} {level i : Nat} {line : Text}

def tabs (level : Nat) : Text :=
  Text.replicate level 0x09

/-- Line `i`, counted from zero, starts in a raw string: the line feed before it is a part of the string. -/
def StartsInside (code : Text) (i : Nat) : Prop :=
  ∃ token ∈ tokens code, token.isRaw = true ∧ token.offset < lineStart code i ∧
    lineStart code i ≤ token.offset + token.width

/-- A text is another one indented by some levels: no line is added or lost, a line that is blank or starts in a
raw string is as it was, and any other line has the tabs in front. -/
structure IndentedBy (level : Nat) (code out : Text) : Prop where
  lineCount : out.lines.length = code.lines.length
  blank : ∀ (i : Nat) (line : Text), code.lines[i]? = some line → line.isBlank = true →
    out.lines[i]? = some line
  inside : ∀ (i : Nat) (line : Text), code.lines[i]? = some line → StartsInside code i →
    out.lines[i]? = some line
  moved : ∀ (i : Nat) (line : Text), code.lines[i]? = some line → line.isBlank = false →
    ¬ StartsInside code i → out.lines[i]? = some (tabs level ++ line)

/-- The protected lines that matter are those that start in a raw string. -/
def Faithful (code : Text) : Prop :=
  ∀ (i : Nat) (line : Text), code.lines[i]? = some line → line.isBlank = false →
    ((i : Int) ∈ rawStringLines code ↔ StartsInside code i)

/-- No comment is worded as a renumbering. -/
def Unnumbered (code : Text) : Prop :=
  ∀ token ∈ tokens code, token.tok = .comment → directiveBody? (token.span code) true = none

/-- Indentations of one text, one after the other. -/
def indentAll (levels : List Nat) (code : Text) : Except Fault Text :=
  levels.foldlM (fun (code : Text) (level : Nat) => indent code level) code

/-! ### Lines -/

theorem mapLines_eq_mapIdx (kept : List Int) (change : Text → Text) (n : Nat) (lines : List Text) :
    mapLines kept change n lines =
      lines.mapIdx fun j line => if kept.contains ((n + j : Nat) : Int) then line else change line := by
  induction lines generalizing n with
  | nil => rfl
  | cons line rest ih =>
    rw [mapLines, List.mapIdx_cons, ih]
    simp only [Nat.add_zero, Nat.add_assoc, Nat.add_comm 1]

/-- Whether line `i` gets tabs. -/
def isMoved (code : Text) (i : Nat) : Bool :=
  !(rawStringLines code).contains (i : Int) && code.lines[i]?.any fun line => !line.isBlank

theorem indentBy_lines (level : Nat) (code : Text) :
    indentBy level code = Text.unlines (code.lines.mapIdx fun j line =>
      (if isMoved code j then tabs level else []) ++ line) := by
  rw [indentBy, mapLines_eq_mapIdx]
  refine congrArg Text.unlines (List.ext_getElem? fun j => ?_)
  rw [List.getElem?_mapIdx, List.getElem?_mapIdx]
  cases known : code.lines[j]? with
  | none => rfl
  | some line =>
    rw [Option.map_some, Option.map_some, isMoved, known, Nat.zero_add, Option.any_some, tabs]
    cases (rawStringLines code).contains (j : Int) <;> cases line.isBlank <;> rfl

theorem indentBy_eq_led (level : Nat) (code : Text) :
    indentBy level code = led (isMoved code) (tabs level) code := by
  rw [indentBy_lines, led, ← Text.unlines_led]
  simp only [Nat.zero_add]

theorem newline_notMem_tabs (level : Nat) : Text.newline ∉ tabs level := by
  intro member
  have tab := List.eq_of_mem_replicate member
  exact absurd tab (by decide)

theorem lines_indentBy (level : Nat) (code : Text) :
    (indentBy level code).lines =
      code.lines.mapIdx fun j line => (if isMoved code j then tabs level else []) ++ line := by
  rw [indentBy_lines, Text.lines_unlines]
  · exact mt List.mapIdx_eq_nil_iff.mp (Text.splitOn_ne_nil _ _)
  · intro line member feed
    obtain ⟨j, known, rfl⟩ := List.mem_mapIdx.mp member
    rcases List.mem_append.mp feed with led | own
    · split at led
      · exact newline_notMem_tabs level led
      · cases led
    · exact Text.newline_notMem_lines (List.getElem_mem known) own

theorem indent_natural (code : Text) (level : Nat) : indent code level = .ok (indentBy level code) := by
  rw [indent]
  by_cases empty : code.isEmpty = true
  · rw [if_pos empty, List.isEmpty_iff.mp empty]
    cases level <;> rfl
  · rw [if_neg empty, if_neg (by omega), Int.toNat_natCast]

theorem isMoved_iff (known : code.lines[i]? = some line) :
    isMoved code i = true ↔ (i : Int) ∉ rawStringLines code ∧ line.isBlank = false := by
  simp [isMoved, known]

theorem tabs_append_ne (some : level ≠ 0) (line : Text) : tabs level ++ line ≠ line := by
  intro same
  have length := congrArg List.length same
  rw [List.length_append, tabs, Text.replicate, List.length_replicate] at length
  omega

/-- A text is indented around its raw strings exactly if it protects the right lines. -/
theorem indentedBy_iff (level : Nat) (code : Text) :
    IndentedBy level code (indentBy level code) ↔ level = 0 ∨ Faithful code := by
  have result {i : Nat} {line : Text} (known : code.lines[i]? = some line) :
      (indentBy level code).lines[i]? = some ((if isMoved code i then tabs level else []) ++ line) := by
    rw [lines_indentBy, List.getElem?_mapIdx, known, Option.map_some]
  constructor
  · intro indented
    by_cases none : level = 0
    · exact .inl none
    · refine .inr fun i line known dark => ⟨fun kept => ?_, fun inside => ?_⟩
      · by_contra outside
        have moved := indented.moved i line known dark outside
        rw [result known, if_neg fun moved => ((isMoved_iff known).mp moved).1 kept] at moved
        exact tabs_append_ne none line (Option.some.inj moved).symm
      · by_contra loose
        have kept := indented.inside i line known inside
        rw [result known, if_pos ((isMoved_iff known).mpr ⟨loose, dark⟩)] at kept
        exact tabs_append_ne none line (Option.some.inj kept)
  · intro fits
    have still {i : Nat} {line : Text} (known : code.lines[i]? = some line)
        (kept : isMoved code i = false) : (indentBy level code).lines[i]? = some line := by
      rw [result known, kept]
      rfl
    refine ⟨?_, fun i line known blank => ?_, fun i line known inside => ?_,
      fun i line known dark outside => ?_⟩
    · rw [lines_indentBy, List.length_mapIdx]
    · refine still known (Bool.eq_false_iff.mpr fun moved => ?_)
      simpa [blank] using ((isMoved_iff known).mp moved).2
    · rcases fits with rfl | faithful
      · rw [result known]
        cases isMoved code i <;> rfl
      · refine still known (Bool.eq_false_iff.mpr fun moved => ?_)
        obtain ⟨loose, dark⟩ := (isMoved_iff known).mp moved
        exact loose ((faithful i line known dark).mpr inside)
    · rcases fits with rfl | faithful
      · rw [result known]
        cases isMoved code i <;> rfl
      · rw [result known, if_pos ((isMoved_iff known).mpr ⟨fun kept => ?_, dark⟩)]
        exact outside ((faithful i line known dark).mp kept)

/-! ### Renumbering comments -/

theorem directiveBody?_eq_none_iff (raw : Text) :
    directiveBody? raw true = none ↔ (Text.ofString "line ").isPrefixOf (raw.drop 2) = false := by
  unfold directiveBody?
  simp only [Bool.not_true, Bool.and_false, Bool.false_eq_true, if_false]
  split
  · rename_i apart
    exact iff_of_true rfl (by simpa using apart)
  · rename_i worded
    refine iff_of_false ?_ (by simpa using worded)
    split <;> simp

theorem directiveBody?_of_none {raw : Text} (none : directiveBody? raw true = none) (startsLine : Bool) :
    directiveBody? raw startsLine = Option.none := by
  have apart := (directiveBody?_eq_none_iff raw).mp none
  simp [directiveBody?, apart]

theorem applyComment_of_none (none : directiveBody? (token.span code) true = none) (m : LineMap) :
    applyComment code.toArray m token = (m, false) := by
  have raw : (code.toArray.extract token.offset (token.offset + token.width)).toList = token.span code := by
    rw [Array.toList_extract, List.extract_eq_take_drop, Nat.add_sub_cancel_left]
    rfl
  unfold applyComment
  split
  · rfl
  · simp only [raw, directiveBody?_of_none none]

/-- Without a comment worded as a renumbering, lines have the numbers that they have in the text. -/
theorem ofTokens_of_unnumbered (name : Text) (unnumbered : Unnumbered code) :
    (LineMap.ofTokens name code (tokens code)).1 = LineMap.plain name code := by
  unfold LineMap.ofTokens
  refine List.foldlRecOn (motive := fun state : LineMap × Bool => state.1 = LineMap.plain name code)
    (tokens code) _ rfl ?_
  rintro ⟨m, bad⟩ same token member
  by_cases comment : token.tok = .comment
  · simp only [comment, beq_self_eq_true, if_true, applyComment_of_none (unnumbered token member comment)]
    exact same
  · simp only [beq_false_of_ne comment, Bool.false_eq_true, if_false]
    exact same

theorem line_of_unnumbered (unnumbered : Unnumbered code) {q : Nat} (inside : q < code.length) :
    (LineMap.ofTokens [] code (tokens code)).1.line q = lineAt code q + 1 := by
  rw [ofTokens_of_unnumbered [] unnumbered]
  exact congrArg Int.ofNat (LineMap.rawLine_plain [] inside)

/-! ### Protected lines -/

theorem isText_of_isRaw (raw : token.isRaw = true) : token.isText = true := by
  rw [Token.isText, (Bool.and_eq_true_iff.mp raw).1, Bool.true_or]

/-- The protected lines are those behind the number that messages show for the start of a raw string, as many as
the string has line feeds. -/
theorem mem_rawStringLines_iff (i : Int) :
    i ∈ rawStringLines code ↔ ∃ token ∈ tokens code, token.isRaw = true ∧
      (LineMap.ofTokens [] code (tokens code)).1.line token.offset ≤ i ∧
      i < (LineMap.ofTokens [] code (tokens code)).1.line token.offset +
        (token.span code).count Text.newline := by
  rw [rawStringLines, List.mem_flatMap]
  refine exists_congr fun token => and_congr_right fun member => ?_
  have kind : (token.tok == .string && token.literal.head? == some backquote) = token.isRaw := rfl
  rw [kind]
  cases raw : token.isRaw with
  | false => simp
  | true =>
    obtain ⟨b, rest, read⟩ := tokens_readAt member (isText_of_isRaw raw)
    rw [if_pos rfl, List.mem_map, count_literal read raw]
    generalize (LineMap.ofTokens [] code (tokens code)).1.line token.offset = start
    constructor
    · rintro ⟨n, known, rfl⟩
      rw [List.mem_range] at known
      exact ⟨rfl, by omega, by omega⟩
    · rintro ⟨-, above, below⟩
      exact ⟨(i - start).toNat, List.mem_range.mpr (by omega), by omega⟩

theorem startsInside_iff (known : i ≤ code.count Text.newline) :
    StartsInside code i ↔ ∃ token ∈ tokens code, token.isRaw = true ∧ lineAt code token.offset < i ∧
      i ≤ lineAt code (token.offset + token.width) := by
  refine exists_congr fun token => and_congr_right fun _ => and_congr_right fun _ => ?_
  rw [← Nat.not_le, ← Nat.not_le, Text.lineStart_le_iff known, Text.lineStart_le_iff known]

theorem lineCount_of_known (known : code.lines[i]? = some line) : i ≤ code.count Text.newline := by
  have inside := (List.getElem?_eq_some_iff.mp known).1
  rw [Text.length_lines] at inside
  exact Nat.le_of_lt_succ inside

theorem faithful_of_unnumbered (unnumbered : Unnumbered code) : Faithful code := by
  intro i line known _
  rw [mem_rawStringLines_iff, startsInside_iff (lineCount_of_known known)]
  refine exists_congr fun token => and_congr_right fun member => and_congr_right fun raw => ?_
  obtain ⟨b, rest, read⟩ := tokens_readAt member (isText_of_isRaw raw)
  have inside : token.offset < code.length := by
    by_contra outside
    have front := read.front
    rw [List.drop_eq_nil_of_le (Nat.le_of_not_lt outside)] at front
    cases front
  rw [line_of_unnumbered unnumbered inside, Text.lineAt_add, ← Token.span]
  omega

theorem still_of_faithful (faithful : Faithful code) : Still (isMoved code) code (tokens code) := by
  intro token member raw i above below
  refine Bool.eq_false_iff.mpr fun moved => ?_
  obtain ⟨line, known, dark⟩ := (Option.any_eq_true ..).mp (Bool.and_eq_true_iff.mp moved).2
  obtain ⟨loose, dark⟩ := (isMoved_iff known).mp moved
  have inside := (startsInside_iff (lineCount_of_known known)).mpr ⟨token, member, raw, above, below⟩
  exact loose ((faithful i line known dark).mpr inside)

/-! ### Indentations in one another -/

theorem tab_of_mem_tabs (level : Nat) : ∀ c ∈ tabs level, c = 0x09 :=
  fun _ member => List.eq_of_mem_replicate member

theorem rawStrings_indentBy (ordinary : isUtf16 code = false) (faithful : Faithful code) (level : Nat) :
    rawStrings (indentBy level code) = rawStrings code := by
  rw [indentBy_eq_led]
  exact rawStrings_led (tab_of_mem_tabs level) ordinary (still_of_faithful faithful)

theorem unnumbered_indentBy (ordinary : isUtf16 code = false) (unnumbered : Unnumbered code) (level : Nat) :
    Unnumbered (indentBy level code) := by
  obtain ⟨extra, others, scan, illegal, related⟩ := tokens_led (tab_of_mem_tabs level) ordinary
    (still_of_faithful (faithful_of_unnumbered unnumbered))
  rw [indentBy_eq_led]
  intro token member comment
  rw [scan] at member
  rcases List.mem_append.mp member with front | later
  · rw [illegal token front] at comment
    cases comment
  · obtain ⟨source, known, led⟩ := exists_led related later
    have source_comment : source.tok = .comment := led.tok.symm.trans comment
    obtain ⟨b, rest, read⟩ := tokens_readAt known (by simp [Token.isText, source_comment])
    obtain ⟨n, behind⟩ := led.span_of_comment read source_comment
    have plain := unnumbered source known source_comment
    rw [directiveBody?_eq_none_iff] at plain ⊢
    rwa [behind, isPrefixOf_leadLines (by decide)]

theorem indentAll_cons (level : Nat) (rest : List Nat) (code : Text) :
    indentAll (level :: rest) code = indentAll rest (indentBy level code) := by
  rw [indentAll, List.foldlM_cons, indent_natural]
  rfl

/-- No number of indentations changes a raw string. -/
theorem rawStrings_indentAll (ordinary : isUtf16 code = false) (unnumbered : Unnumbered code)
    (levels : List Nat) : ∃ out, indentAll levels code = .ok out ∧ rawStrings out = rawStrings code := by
  induction levels generalizing code with
  | nil => exact ⟨code, rfl, rfl⟩
  | cons level rest ih =>
    have ordinary' : isUtf16 (indentBy level code) = false := by
      rw [indentBy_eq_led]
      exact isUtf16_led _ (tab_of_mem_tabs level) ordinary
    obtain ⟨out, indented, kept⟩ := ih ordinary' (unnumbered_indentBy ordinary unnumbered level)
    refine ⟨out, (indentAll_cons level rest code).trans indented, kept.trans ?_⟩
    exact rawStrings_indentBy ordinary (faithful_of_unnumbered unnumbered) level

/-- Indenting succeeds for every text and level. The protected lines are those behind the number that messages
show for the start of a raw string, and a text is indented around its raw strings exactly if, blank lines apart,
these are the lines that start in a raw string; then the raw strings are the same afterwards. This is so where no
comment is worded as a renumbering, and then any number of indentations leaves the raw strings as they were. A
text marked as being in sixteen-bit units has no raw strings. -/
theorem indent_exact (code : Text) :
    (∀ level : Nat, indent code level = .ok (indentBy level code) ∧
      (IndentedBy level code (indentBy level code) ↔ level = 0 ∨ Faithful code)) ∧
    (∀ i : Int, i ∈ rawStringLines code ↔ ∃ token ∈ tokens code, token.isRaw = true ∧
      (LineMap.ofTokens [] code (tokens code)).1.line token.offset ≤ i ∧
      i < (LineMap.ofTokens [] code (tokens code)).1.line token.offset +
        (token.span code).count Text.newline) ∧
    (Faithful code → isUtf16 code = false →
      ∀ level, rawStrings (indentBy level code) = rawStrings code) ∧
    (Unnumbered code → Faithful code ∧ (isUtf16 code = false →
      ∀ levels, ∃ out, indentAll levels code = .ok out ∧ rawStrings out = rawStrings code)) ∧
    (isUtf16 code = true → rawStrings code = []) := by
  refine ⟨fun level => ⟨indent_natural code level, indentedBy_iff level code⟩, mem_rawStringLines_iff,
    fun faithful ordinary => rawStrings_indentBy ordinary faithful,
    fun unnumbered => ⟨faithful_of_unnumbered unnumbered, fun ordinary => ?_⟩, fun wide => ?_⟩
  · exact rawStrings_indentAll ordinary unnumbered
  · rw [rawStrings, tokens, if_pos wide]
    rfl

/-- With a comment that renumbers lines, the second line of the raw string is indented; without it the string
survives. -/
theorem indent_exact_renumbered :
    let code : Text := "//line x.go:40\ns := `one\ntwo`"
    let plain : Text := "s := `one\ntwo`"
    ¬ IndentedBy 1 code (indentBy 1 code) ∧
      indentBy 1 code = Text.ofString "\t//line x.go:40\n\ts := `one\n\ttwo`" ∧
      IndentedBy 1 plain (indentBy 1 plain) ∧
      ∃ out, indentAll [1, 2] plain = .ok out ∧ rawStrings out = [Text.ofString "`one\ntwo`"] := by
  intro code plain
  have loose : ¬ ((2 : Nat) : Int) ∈ rawStringLines code := by decide +kernel
  have inside : StartsInside code 2 := by
    unfold StartsInside
    decide +kernel
  have unnumbered : Unnumbered plain := by
    unfold Unnumbered
    decide +kernel
  have raw : rawStrings plain = [Text.ofString "`one\ntwo`"] := by decide +kernel
  obtain ⟨exact, -⟩ := indent_exact code
  obtain ⟨plainExact, -, -, fits, -⟩ := indent_exact plain
  refine ⟨fun indented => ?_, by decide +kernel, (plainExact 1).2.mpr (.inr (fits unnumbered).1), ?_⟩
  · rcases (exact 1).2.mp indented with none | faithful
    · cases none
    · exact loose ((faithful 2 "two`" (by decide +kernel) (by decide +kernel)).mpr inside)
  · rw [← raw]
    exact (fits unnumbered).2 (by decide +kernel) [1, 2]

end SystemLoops.Source
