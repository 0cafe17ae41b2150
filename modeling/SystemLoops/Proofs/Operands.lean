import SystemLoops.Proofs.BlankUses

/-!
Operands and selections. An identifier directly behind a period names a member of something else, and is
no use of a variable of that name; rendering counts it as one all the same. Main statement: a binding has a
blank use when its name occurs in scope neither as an operand nor as a selection, so the binding is left
unused when its name occurs there as a selection only.
-/

namespace SystemLoops

namespace Source

/-- The identifiers among some tokens, each with whether a period stands directly before it. -/
def marked : (selected : Bool) → List Token → List (Text × Bool)
  | _, [] => []
  | selected, token :: rest =>
    let others := marked (token.tok == .period) rest
    if token.tok == .ident then (token.literal, selected) :: others else others

/-- The identifiers of a text that no period stands directly before. -/
def operands (t : Text) : List Text :=
  ((marked false (codeTokens t)).filter fun i => !i.2).map Prod.fst

/-- The identifiers of a text that a period stands directly before. -/
def selections (t : Text) : List Text :=
  ((marked false (codeTokens t)).filter fun i => i.2).map Prod.fst

theorem map_fst_marked (selected : Bool) (found : List Token) :
    (marked selected found).map Prod.fst =
      found.filterMap fun token => if token.tok == .ident then some token.literal else none := by
  induction found generalizing selected with
  | nil => rfl
  | cons token rest ih =>
    by_cases named : token.tok = .ident <;> simp [marked, named, ih]

theorem mem_identifiers_iff {t name : Text} :
    name ∈ identifiers t ↔ name ∈ operands t ∨ name ∈ selections t := by
  have comments : identifiers t = (marked false (codeTokens t)).map Prod.fst := by
    rw [map_fst_marked, codeTokens, List.filterMap_filter, identifiers]
    apply List.filterMap_congr
    intro token _
    cases token.tok <;> rfl
  rw [comments]
  simp [operands, selections]

end Source

open Loop (Laid Spelled Mentioned)

/-- Who mentions what two others mention finds it in scope where one of them does. -/
theorem Loop.mentioned_or_iff {find : Key → Option Node} {mentions first second : Text → List Text}
    (either : ∀ source name, name ∈ mentions source ↔ name ∈ first source ∨ name ∈ second source)
    {n : Node} {name : Text} : Mentioned find mentions n name ↔
      Mentioned find first n name ∨ Mentioned find second n name := by
  simp only [Mentioned, Says, either, and_or_left, exists_or]

namespace Method

variable {m : Method} {o : WalkOptions} {options : UnitOptions} {a : Analysis} {parts : Assembly}
  {warnings : List Diagnostic}

/-- The body of the unit of a method is spelled from the nodes of the method, one loop for every node. A
binding has a blank use exactly when its name occurs in scope neither as an operand nor as a selection. So
every binding without one is an operand in its scope exactly when the names of the method are operands
wherever they are selections. -/
theorem blank_use_iff_unmentioned (analysed : analyse (some m) o = .ok a)
    (assembled : Assembly.ofAnalysis a options = .ok (parts, warnings)) :
    let find := (a.arena.getD .empty).lookup?
    ∃ texts loops, parts.body = Source.indentBy 1 (Text.unlines texts) ∧
      Spelled (Assembly.loopOptions a options) find a.preamble texts loops ∧
      loops.map Laid.node = a.nodes ∧
      (∀ l ∈ loops, ∀ b ∈ l.bindings, b.2 = true ↔
        ¬ Mentioned find Source.operands l.node b.1.name ∧
        ¬ Mentioned find Source.selections l.node b.1.name) ∧
      ((∀ l ∈ loops, ∀ b ∈ l.bindings, b.2 = false →
          Mentioned find Source.operands l.node b.1.name) ↔
        ∀ n ∈ a.nodes, ∀ p ∈ n.bindings, p.name ≠ [] ∧ p.name ≠ Text.ofString "_" →
          Mentioned find Source.selections n p.name → Mentioned find Source.operands n p.name) := by
  intro find
  obtain ⟨texts, loops, body, spelled, nodes, byScope⟩ := spelled_of_analyse analysed assembled
  have decided (l : Laid) (member : l ∈ loops) : ∀ b ∈ l.bindings, b.2 = true ↔
      ¬ Mentioned find Source.operands l.node b.1.name ∧
      ¬ Mentioned find Source.selections l.node b.1.name := by
    intro b binds
    rw [byScope l member b binds, Loop.mentioned_or_iff fun _ _ => Source.mem_identifiers_iff, not_or]
  refine ⟨texts, loops, body, spelled, nodes, decided, ?_⟩
  rw [← nodes, ← Laid.forall_bindings_iff (P := fun n p =>
    Mentioned find Source.selections n p.name → Mentioned find Source.operands n p.name)]
  refine forall₂_congr fun l placed => forall₂_congr fun b binds => ?_
  rw [← Bool.not_eq_true, decided l placed b binds]
  by_cases operand : Mentioned find Source.operands l.node b.1.name <;> simp [operand]

/-- A loop that binds the name of a field of its receiver, and reads the field only. -/
def selecting : Method :=
  { system := "Motion"
    package := "motion"
    receiver := "m"
    body := [
      .callWith "m.Each(func(p *Pos) \x7b use(m.p) \x7d)" {} [⟨"Each", []⟩] (some [⟨"Pos", "p"⟩]) true
        [.text "use(m.p)" {}]] }

/-- The one node of its analysed form. -/
def selectingNode : Node :=
  { key := ⟨0, 0⟩, params := some [⟨"Pos", "p"⟩], body := [.text "use(m.p)"], signature := "query_Pos" }

theorem mentioned_selectingNode {find : Key → Option Node} {mentions : Text → List Text} {name : Text} :
    Mentioned find mentions selectingNode name ↔ name ∈ mentions "use(m.p)" := by
  rw [Loop.mentioned_iff]
  change Loop.Leaves find mentions [.text _] name ↔ _
  simp [Loop.leaves_text, Loop.not_leaves_nil]

/-- The variable of the loop has no blank use, and nothing refers to it. -/
theorem blank_use_iff_unmentioned_selecting :
    ∃ a parts warnings, analyse (some selecting) {} = .ok a ∧
      Assembly.ofAnalysis a {} = .ok (parts, warnings) ∧
      parts.body = Source.indentBy 1 (Text.unlines [
        "for index0 := 0; index0 < m.query_Pos.Count(); index0++ \x7b",
        "\tp := &m.poolPos.Items[m.query_Pos.Entities[index0]]",
        "\tuse(m.p)",
        "\x7d"]) ∧
      let find := (a.arena.getD .empty).lookup?
      ∃ texts loops, parts.body = Source.indentBy 1 (Text.unlines texts) ∧
        Spelled (Assembly.loopOptions a {}) find a.preamble texts loops ∧
        ¬ ∀ l ∈ loops, ∀ b ∈ l.bindings, b.2 = false →
          Mentioned find Source.operands l.node b.1.name := by
  obtain ⟨a, analysed, nodes⟩ : ∃ a, analyse (some selecting) {} = .ok a ∧ a.nodes = [selectingNode] :=
    ⟨_, rfl, by decide +kernel⟩
  obtain ⟨parts, warnings, assembled, text⟩ := unit_of_analyse (by decide) analysed {}
  obtain ⟨texts, loops, body, spelled, -, -, referenced⟩ :=
    blank_use_iff_unmentioned analysed assembled
  refine ⟨a, parts, warnings, analysed, assembled, text.trans (congrArg _ (by decide +kernel)), texts, loops,
    body, spelled, fun all => ?_⟩
  have operand := referenced.mp all selectingNode (by simp [nodes]) ⟨"Pos", "p"⟩ (by decide) (by decide)
    (mentioned_selectingNode.mpr (by decide +kernel))
  exact absurd (mentioned_selectingNode.mp operand) (by decide +kernel)

end Method

end SystemLoops
