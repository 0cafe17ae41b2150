import SystemLoops.Proofs.CheckedAccess
import SystemLoops.Proofs.Indentation

/-!
Dedenting. What lines of code share is found by shortening a text from its end until the next line begins with
it too. Main statement: this ends, with the longest text that all of them begin with, and that text is removed
in front of every unprotected line that begins with it, and nothing else. Dedenting a text without a backquote
a second time changes nothing.
-/

namespace SystemLoops.Source

variable {code lead shared : Text} {i : Nat} {line : Text} {kept : List Int}

/-- Line `i`, counted from zero, is a line of code: neither blank nor protected. -/
structure IsCode (code : Text) (i : Nat) (line : Text) : Prop where
  known : code.lines[i]? = some line
  loose : (i : Int) ∉ rawStringLines code
  dark : line.isBlank = false

/-- A text is the longest one that the leading blanks and tabs of all lines of code begin with, or empty if
there is no line of code. -/
structure SharedIndent (code shared : Text) : Prop where
  leads : ∀ (i : Nat) (line : Text), IsCode code i line → shared <+: leading line
  longest : (∃ i line, IsCode code i line) →
    ∀ other, (∀ (i : Nat) (line : Text), IsCode code i line → other <+: leading line) → other <+: shared
  empty : (¬ ∃ i line, IsCode code i line) → shared = []

/-- A text is another one without an indentation: no line is added or lost, a protected line is as it was, and
any other line has lost the indentation if it began with it. -/
structure DedentedBy (shared code out : Text) : Prop where
  lineCount : out.lines.length = code.lines.length
  inside : ∀ (i : Nat) (line : Text), code.lines[i]? = some line → (i : Int) ∈ rawStringLines code →
    out.lines[i]? = some line
  moved : ∀ (i : Nat) (rest : Text), code.lines[i]? = some (shared ++ rest) →
    (i : Int) ∉ rawStringLines code → out.lines[i]? = some rest
  still : ∀ (i : Nat) (line : Text), code.lines[i]? = some line → ¬ shared <+: line →
    out.lines[i]? = some line

/-! ### What texts share -/

theorem prefix_commonPrefix_iff {p a b : Text} : p <+: commonPrefix a b ↔ p <+: a ∧ p <+: b := by
  induction a generalizing p b with
  | nil =>
    change p <+: [] ↔ _
    rw [List.prefix_nil]
    exact ⟨fun empty => ⟨empty, empty ▸ List.nil_prefix⟩, And.left⟩
  | cons x as ih =>
    cases b with
    | nil =>
      change p <+: [] ↔ _
      rw [List.prefix_nil]
      exact ⟨fun empty => ⟨empty ▸ List.nil_prefix, empty⟩, And.right⟩
    | cons y bs =>
      cases p with
      | nil => exact iff_of_true List.nil_prefix ⟨List.nil_prefix, List.nil_prefix⟩
      | cons c p =>
        rw [commonPrefix]
        by_cases same : x = y
        · subst same
          rw [if_pos (beq_self_eq_true x), List.cons_prefix_cons, List.cons_prefix_cons,
            List.cons_prefix_cons, ih]
          exact and_and_left
        · rw [if_neg (by simpa using same), List.cons_prefix_cons, List.cons_prefix_cons, List.prefix_nil]
          constructor
          · intro impossible
            cases impossible
          · rintro ⟨⟨rfl, -⟩, rfl, -⟩
            exact absurd rfl same

theorem prefix_foldl_commonPrefix_iff {p : Text} (others : List Text) (first : Text) :
    p <+: others.foldl commonPrefix first ↔ p <+: first ∧ ∀ lead ∈ others, p <+: lead := by
  induction others generalizing first with
  | nil => simp
  | cons lead rest ih => rw [List.foldl_cons, ih, prefix_commonPrefix_iff, List.forall_mem_cons, and_assoc]

theorem eq_of_prefix_iff {a b : Text} (same : ∀ p : Text, p <+: a ↔ p <+: b) : a = b := by
  have front : a <+: b := (same a).mp List.prefix_rfl
  have back : b <+: a := (same b).mpr List.prefix_rfl
  exact front.eq_of_length_le back.length_le

/-! ### Shortening from the end -/

/-- Cut bytes off the end of a text until a line's lead begins with what is left. -/
def shrink (lead shared : Text) : Except Fault Text :=
  if shared.isPrefixOf lead then .ok shared
  else if shared.isEmpty then .error (.refused "runtime error: slice bounds out of range [:-1]")
  else shrink lead shared.dropLast
termination_by shared.length
decreasing_by
  rename_i some
  rw [List.length_dropLast]
  have long := List.length_pos_iff.mpr (mt List.isEmpty_iff.mpr some)
  omega

theorem commonPrefix_of_prefix (front : shared <+: lead) : commonPrefix shared lead = shared := by
  apply eq_of_prefix_iff
  intro p
  rw [prefix_commonPrefix_iff]
  exact ⟨And.left, fun short => ⟨short, short.trans front⟩⟩

/-- A text that a lead does not begin with has nothing more in common with it than the text without its last
byte. -/
theorem commonPrefix_dropLast (apart : ¬ shared <+: lead) :
    commonPrefix shared.dropLast lead = commonPrefix shared lead := by
  apply eq_of_prefix_iff
  intro p
  rw [prefix_commonPrefix_iff, prefix_commonPrefix_iff]
  refine and_congr_left fun front => ⟨fun short => short.trans shared.dropLast_prefix, fun short => ?_⟩
  have some : shared ≠ [] := by
    rintro rfl
    exact apart List.nil_prefix
  rw [← List.dropLast_concat_getLast some, List.prefix_concat_iff, List.dropLast_concat_getLast some] at short
  rcases short with rfl | short
  · exact absurd front apart
  · exact short

/-- Shortening ends before the text is empty and cut once more, with what both begin with. -/
theorem shrink_eq (lead shared : Text) : shrink lead shared = .ok (commonPrefix shared lead) := by
  induction size : shared.length generalizing shared with
  | zero =>
    rw [List.length_eq_zero_iff.mp size, shrink]
    rfl
  | succ n ih =>
    rw [shrink]
    by_cases front : shared <+: lead
    · rw [if_pos (List.isPrefixOf_iff_prefix.mpr front), commonPrefix_of_prefix front]
    · have some : shared ≠ [] := List.ne_nil_of_length_eq_add_one size
      rw [if_neg (mt List.isPrefixOf_iff_prefix.mp front), if_neg (mt List.isEmpty_iff.mp some),
        ih shared.dropLast (by rw [List.length_dropLast, size]; rfl), commonPrefix_dropLast front]

/-- What the lines so far share, with one line more. The first line shares its whole lead. -/
def narrow (sharedSoFar : Option Text) (line : Text) : Except Fault (Option Text) :=
  match sharedSoFar with
  | none => .ok (some (leading line))
  | some shared => (shrink (leading line) shared).map some

theorem narrow_rounds (lines : List Text) (shared : Text) :
    lines.foldlM narrow (some shared) = .ok (some ((lines.map leading).foldl commonPrefix shared)) := by
  induction lines generalizing shared with
  | nil => rfl
  | cons line rest ih =>
    rw [List.foldlM_cons, narrow, shrink_eq]
    exact ih (commonPrefix shared (leading line))

theorem narrow_lines (kept : List Int) (lines : List Text) :
    (codeLines kept 0 lines).foldlM narrow none =
      .ok (if (codeLines kept 0 lines).isEmpty then none else some (commonIndent kept lines)) := by
  rw [commonIndent]
  cases codeLines kept 0 lines with
  | nil => rfl
  | cons line rest =>
    rw [List.foldlM_cons]
    exact narrow_rounds rest (leading line)

/-- Dedent a text in place, with the shared indentation found by shortening. -/
def checkedDedent (code : Text) : Except Fault Text :=
  let kept := rawStringLines code
  match (codeLines kept 0 code.lines).foldlM narrow none with
  | .error f => .error f
  | .ok found =>
    let shared := found.getD []
    if shared.isEmpty then .ok code
    else (Checked.rewrite (fun i line => if kept.contains i then line else Text.dropPrefix shared line)
      code.lines).map Text.unlines

theorem checkedDedent_eq (code : Text) : checkedDedent code = .ok (dedent code) := by
  simp only [checkedDedent, narrow_lines]
  have found : (if (codeLines (rawStringLines code) 0 code.lines).isEmpty then none
      else some (commonIndent (rawStringLines code) code.lines)).getD [] =
        commonIndent (rawStringLines code) code.lines := by
    rw [commonIndent]
    cases codeLines (rawStringLines code) 0 code.lines <;> rfl
  rw [found, dedent]
  split
  · rfl
  · rw [Checked.rewrite_eq, mapLines_eq_mapIdx]
    simp only [Nat.zero_add]
    rfl

/-! ### The indentation of a text -/

theorem mem_codeLines_iff (n : Nat) (lines : List Text) :
    line ∈ codeLines kept n lines ↔
      ∃ i, lines[i]? = some line ∧ ((n + i : Nat) : Int) ∉ kept ∧ line.isBlank = false := by
  induction lines generalizing n with
  | nil => simp [codeLines]
  | cons first rest ih =>
    have later : (∃ i, (first :: rest)[i]? = some line ∧ ((n + i : Nat) : Int) ∉ kept ∧ line.isBlank = false) ↔
        (first = line ∧ (n : Int) ∉ kept ∧ line.isBlank = false) ∨ line ∈ codeLines kept (n + 1) rest := by
      rw [ih]
      constructor
      · rintro ⟨i, known, loose, dark⟩
        cases i with
        | zero => exact .inl ⟨Option.some.inj known, loose, dark⟩
        | succ i => exact .inr ⟨i, known, by rwa [Nat.add_right_comm], dark⟩
      · rintro (⟨rfl, loose, dark⟩ | ⟨i, known, loose, dark⟩)
        · exact ⟨0, rfl, loose, dark⟩
        · exact ⟨i + 1, known, by rwa [← Nat.add_assoc, Nat.add_right_comm], dark⟩
    rw [later, codeLines]
    split
    · rename_i passed
      refine ⟨.inr, ?_⟩
      rintro (⟨rfl, loose, dark⟩ | member)
      · rw [dark, Bool.false_or, List.contains_iff_mem] at passed
        exact absurd passed loose
      · exact member
    · rename_i taken
      rw [Bool.or_eq_true, not_or, List.contains_iff_mem, Bool.not_eq_true] at taken
      rw [List.mem_cons]
      refine or_congr_left ⟨?_, fun here => here.1.symm⟩
      rintro rfl
      exact ⟨rfl, taken.2, taken.1⟩

theorem mem_codeLines_rawStringLines_iff :
    line ∈ codeLines (rawStringLines code) 0 code.lines ↔ ∃ i, IsCode code i line := by
  rw [mem_codeLines_iff]
  simp only [Nat.zero_add]
  exact exists_congr fun i => ⟨fun ⟨known, loose, dark⟩ => ⟨known, loose, dark⟩,
    fun here => ⟨here.known, here.loose, here.dark⟩⟩

theorem sharedIndent_commonIndent (code : Text) :
    SharedIndent code (commonIndent (rawStringLines code) code.lines) := by
  have members (line : Text) : line ∈ codeLines (rawStringLines code) 0 code.lines ↔ ∃ i, IsCode code i line :=
    mem_codeLines_rawStringLines_iff
  rw [commonIndent]
  generalize codeLines (rawStringLines code) 0 code.lines = found at members
  cases found with
  | nil =>
    have none (i : Nat) (line : Text) : ¬ IsCode code i line := fun here =>
      List.not_mem_nil ((members line).mpr ⟨i, here⟩)
    exact ⟨fun i line here => absurd here (none i line), fun ⟨i, line, here⟩ => absurd here (none i line),
      fun _ => rfl⟩
  | cons first rest =>
    have shared (p : Text) : p <+: (rest.map leading).foldl commonPrefix (leading first) ↔
        ∀ i line, IsCode code i line → p <+: leading line := by
      rw [prefix_foldl_commonPrefix_iff]
      constructor
      · rintro ⟨front, others⟩ i line here
        rcases List.mem_cons.mp ((members line).mpr ⟨i, here⟩) with rfl | later
        · exact front
        · exact others _ (List.mem_map_of_mem later)
      · intro all
        have each (line : Text) (member : line ∈ first :: rest) : p <+: leading line := by
          obtain ⟨i, here⟩ := (members line).mp member
          exact all i line here
        refine ⟨each first List.mem_cons_self, fun lead member => ?_⟩
        obtain ⟨line, later, rfl⟩ := List.mem_map.mp member
        exact each line (List.mem_cons_of_mem _ later)
    obtain ⟨i, here⟩ := (members first).mp List.mem_cons_self
    exact ⟨(shared _).mp List.prefix_rfl, fun _ other all => (shared other).mpr all,
      fun none => absurd ⟨i, first, here⟩ none⟩

/-! ### The lines of the result -/

theorem dropPrefix_append (p t : Text) : Text.dropPrefix p (p ++ t) = t := by
  rw [Text.dropPrefix, if_pos (List.isPrefixOf_iff_prefix.mpr (List.prefix_append p t)), List.drop_left]

theorem dropPrefix_of_apart {p t : Text} (apart : ¬ p <+: t) : Text.dropPrefix p t = t := by
  rw [Text.dropPrefix, if_neg (mt List.isPrefixOf_iff_prefix.mp apart)]

theorem dropPrefix_suffix (p t : Text) : Text.dropPrefix p t <:+ t := by
  rw [Text.dropPrefix]
  split
  · exact List.drop_suffix _ _
  · exact List.suffix_rfl

/-- The text without what its lines of code share, whether or not they share anything. -/
theorem dedent_lines (code : Text) :
    dedent code = Text.unlines (code.lines.mapIdx fun i line =>
      if (rawStringLines code).contains (i : Int) then line
      else Text.dropPrefix (commonIndent (rawStringLines code) code.lines) line) := by
  rw [dedent]
  split
  · rename_i none
    have whole (line : Text) : Text.dropPrefix [] line = line := dropPrefix_append [] line
    rw [List.isEmpty_iff.mp none]
    simp only [whole, ite_self]
    have same : (code.lines.mapIdx fun _ line => line) = code.lines := by
      apply List.ext_getElem?
      intro i
      rw [List.getElem?_mapIdx, Option.map_id']
    rw [same]
    exact (Text.join_splitOn Text.newline code).symm
  · rw [mapLines_eq_mapIdx]
    simp only [Nat.zero_add]

theorem lines_dedent (code : Text) :
    (dedent code).lines = code.lines.mapIdx fun i line =>
      if (rawStringLines code).contains (i : Int) then line
      else Text.dropPrefix (commonIndent (rawStringLines code) code.lines) line := by
  rw [dedent_lines, Text.lines_unlines]
  · exact mt List.mapIdx_eq_nil_iff.mp (Text.splitOn_ne_nil _ _)
  · intro line member feed
    obtain ⟨i, known, rfl⟩ := List.mem_mapIdx.mp member
    apply Text.newline_notMem_lines (List.getElem_mem known)
    split at feed
    · exact feed
    · exact (dropPrefix_suffix _ _).subset feed

theorem dedentedBy_commonIndent (code : Text) :
    DedentedBy (commonIndent (rawStringLines code) code.lines) code (dedent code) := by
  have result {i : Nat} {line : Text} (known : code.lines[i]? = some line) :
      (dedent code).lines[i]? = some (if (rawStringLines code).contains (i : Int) then line
        else Text.dropPrefix (commonIndent (rawStringLines code) code.lines) line) := by
    rw [lines_dedent, List.getElem?_mapIdx, known, Option.map_some]
  refine ⟨?_, fun i line known kept => ?_, fun i rest known loose => ?_, fun i line known apart => ?_⟩
  · rw [lines_dedent, List.length_mapIdx]
  · rw [result known, if_pos (List.contains_iff_mem.mpr kept)]
  · rw [result known, if_neg (mt List.contains_iff_mem.mp loose), dropPrefix_append]
  · rw [result known, dropPrefix_of_apart apart, ite_self]

/-! ### Blank lines -/

/-- Whether a byte may indent: a blank or a tab. -/
def isIndent (b : UInt8) : Bool :=
  b == 0x20 || b == 0x09

/-- A blank or a tab in front makes no difference to whether a line is blank. -/
theorem isBlank_cons {b : UInt8} (indent : isIndent b = true) (t : Text) :
    Text.isBlank (b :: t) = Text.isBlank t := by
  have reads (c : Char) (space : Text.isSpace c = true) (bytes : Text.ofChar c = [b]) :
      Text.isBlank (b :: t) = Text.isBlank t := by
    have runes := Text.runes_ofChar_append c t
    rw [bytes, List.singleton_append] at runes
    rw [Text.isBlank, Text.chars, runes, List.map_cons, List.all_cons, space, Bool.true_and]
    rfl
  rw [isIndent, Bool.or_eq_true, beq_iff_eq, beq_iff_eq] at indent
  rcases indent with rfl | rfl
  · exact reads ' ' (by decide) (by decide)
  · exact reads '\t' (by decide) (by decide)

theorem isBlank_append {lead : Text} (all : ∀ b ∈ lead, isIndent b = true) (t : Text) :
    Text.isBlank (lead ++ t) = Text.isBlank t := by
  induction lead with
  | nil => rfl
  | cons b rest ih =>
    obtain ⟨indent, others⟩ := List.forall_mem_cons.mp all
    rw [List.cons_append, isBlank_cons indent, ih others]

theorem leading_append {lead : Text} (all : ∀ b ∈ lead, isIndent b = true) (t : Text) :
    leading (lead ++ t) = lead ++ leading t := by
  unfold leading
  exact List.takeWhile_append_of_pos all

theorem SharedIndent.indents (indentation : SharedIndent code shared) :
    ∀ b ∈ shared, isIndent b = true := by
  intro b member
  by_cases some : ∃ i line, IsCode code i line
  · obtain ⟨i, line, here⟩ := some
    exact List.all_eq_true.mp List.all_takeWhile b ((indentation.leads i line here).subset member)
  · rw [indentation.empty some] at member
    cases member

theorem SharedIndent.isBlank_dropPrefix (indentation : SharedIndent code shared) (line : Text) :
    (Text.dropPrefix shared line).isBlank = line.isBlank := by
  by_cases front : shared <+: line
  · obtain ⟨rest, rfl⟩ := front
    rw [dropPrefix_append, isBlank_append indentation.indents]
  · rw [dropPrefix_of_apart front]

/-! ### Texts without a backquote -/

theorem rawStringLines_of_quoteless (quoteless : backquote ∉ code) : rawStringLines code = [] := by
  rw [List.eq_nil_iff_forall_not_mem]
  intro i member
  obtain ⟨token, known, raw, -, -⟩ := (mem_rawStringLines_iff i).mp member
  obtain ⟨b, rest, read⟩ := tokens_readAt known (isText_of_isRaw raw)
  obtain ⟨-, opened⟩ := (isRaw_iff read).mp raw
  have spanned : backquote ∈ token.span code := List.mem_of_mem_head? opened
  exact quoteless (List.mem_of_mem_drop (List.mem_of_mem_take spanned))

/-- What stands in lines put together are their bytes and line feeds. -/
theorem mem_unlines_iff {b : UInt8} (dark : b ≠ Text.newline) (lines : List Text) :
    b ∈ Text.unlines lines ↔ ∃ line ∈ lines, b ∈ line := by
  cases lines with
  | nil => simp [Text.unlines, Text.join]
  | cons first rest =>
    rw [Text.unlines, Text.join_cons, List.mem_append, List.exists_mem_cons_iff]
    refine or_congr_right (List.mem_flatMap.trans (exists_congr fun line => and_congr_right fun _ => ?_))
    rw [List.singleton_append, List.mem_cons, or_iff_right dark]

theorem quoteless_dedent (quoteless : backquote ∉ code) : backquote ∉ dedent code := by
  have dark : backquote ≠ Text.newline := by decide
  have whole : Text.unlines code.lines = code := Text.join_splitOn Text.newline code
  have apart : ∀ line ∈ code.lines, backquote ∉ line := by
    intro line known member
    rw [← whole, mem_unlines_iff dark] at quoteless
    exact quoteless ⟨line, known, member⟩
  rw [dedent_lines, mem_unlines_iff dark]
  rintro ⟨line, known, member⟩
  obtain ⟨i, inside, rfl⟩ := List.mem_mapIdx.mp known
  have source := apart _ (List.getElem_mem inside)
  split at member
  · exact source member
  · exact source ((dropPrefix_suffix _ _).subset member)

theorem isCode_iff_of_quoteless (quoteless : backquote ∉ code) :
    IsCode code i line ↔ code.lines[i]? = some line ∧ line.isBlank = false := by
  have loose : (i : Int) ∉ rawStringLines code := by
    rw [rawStringLines_of_quoteless quoteless]
    exact List.not_mem_nil
  exact ⟨fun here => ⟨here.known, here.dark⟩, fun ⟨known, dark⟩ => ⟨known, loose, dark⟩⟩

/-- What is left of the lines of code shares nothing: it would have been a part of what they shared before. -/
theorem commonIndent_dedent (quoteless : backquote ∉ code) :
    commonIndent (rawStringLines (dedent code)) (dedent code).lines = [] := by
  have before := sharedIndent_commonIndent code
  have after := sharedIndent_commonIndent (dedent code)
  have same := lines_dedent code
  rw [rawStringLines_of_quoteless quoteless] at before same
  generalize commonIndent [] code.lines = shared at before same
  generalize commonIndent (rawStringLines (dedent code)) (dedent code).lines = more at after ⊢
  have source (i : Nat) : (dedent code).lines[i]? = (code.lines[i]?).map (Text.dropPrefix shared) := by
    rw [same, List.getElem?_mapIdx]
    rfl
  have kept {i : Nat} {line : Text} (here : IsCode code i line) :
      ∃ rest, line = shared ++ rest ∧ IsCode (dedent code) i rest := by
    obtain ⟨rest, rfl⟩ := (before.leads i line here).trans (List.takeWhile_prefix _)
    refine ⟨rest, rfl, (isCode_iff_of_quoteless (quoteless_dedent quoteless)).mpr ⟨?_, ?_⟩⟩
    · rw [source, here.known, Option.map_some, dropPrefix_append]
    · rw [← isBlank_append before.indents, here.dark]
  by_cases some : ∃ i line, IsCode code i line
  · have longer : shared ++ more <+: shared := by
      refine before.longest some (shared ++ more) fun i line here => ?_
      obtain ⟨rest, rfl, left⟩ := kept here
      rw [leading_append before.indents]
      exact (List.prefix_append_right_inj shared).mpr (after.leads i rest left)
    have length := longer.length_le
    rw [List.length_append] at length
    exact List.length_eq_zero_iff.mp (by omega)
  · refine after.empty ?_
    rintro ⟨i, rest, here⟩
    obtain ⟨known, dark⟩ := (isCode_iff_of_quoteless (quoteless_dedent quoteless)).mp here
    rw [source] at known
    obtain ⟨line, first, rfl⟩ := Option.map_eq_some_iff.mp known
    rw [before.isBlank_dropPrefix] at dark
    exact some ⟨i, line, (isCode_iff_of_quoteless quoteless).mpr ⟨first, dark⟩⟩

theorem dedent_of_unindented (none : commonIndent (rawStringLines code) code.lines = []) :
    dedent code = code := by
  simp only [dedent, none, List.isEmpty_nil, if_true]

/-- Dedenting a text of any kind ends. It removes the longest indentation that all lines of code share from the
front of every unprotected line that begins with it, which those that are not blank do, and changes nothing
else. A text without a backquote has no protected lines, and dedenting it once more leaves it as it is. -/
theorem dedent_exact (code : Text) :
    checkedDedent code = .ok (dedent code) ∧
    (∃ shared, SharedIndent code shared ∧ DedentedBy shared code (dedent code) ∧
      ∀ i line, IsCode code i line → shared <+: line) ∧
    (backquote ∉ code → rawStringLines code = [] ∧ dedent (dedent code) = dedent code) := by
  have indentation := sharedIndent_commonIndent code
  refine ⟨checkedDedent_eq code, ⟨_, indentation, dedentedBy_commonIndent code, fun i line here => ?_⟩,
    fun quoteless => ⟨rawStringLines_of_quoteless quoteless,
      dedent_of_unindented (commonIndent_dedent quoteless)⟩⟩
  exact (indentation.leads i line here).trans (List.takeWhile_prefix _)

/-- A tab is shared, and a blank behind it is not; the blank line and the line of the raw string stay. -/
example : dedent "\t\ta := `x\n\ty`\n\n\t b()" = Text.ofString "\ta := `x\n\ty`\n\n b()" := by
  decide +kernel

end SystemLoops.Source
