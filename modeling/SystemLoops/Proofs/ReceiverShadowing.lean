import SystemLoops.Proofs.BlankUses
import SystemLoops.Proofs.Findings

/-!
Parameters that shadow the receiver. The walk knows the receiver of the method, the unit the one that
stands in for it when it has no name. Main statement: the walk warns of a parameter exactly when it is named
as the receiver of the method, so a loop that binds the receiver of the unit goes unreported exactly when
the receiver of the method has no name.
-/

namespace SystemLoops

namespace Walker

/-- The warning about a parameter that is named as the receiver. -/
def shadowing (position : Position) (p : Param) : Diagnostic :=
  .warn position ("parameter " ++ p.name
    ++ " shadows the receiver; generated field accesses will not resolve")

/-- How the warning about a shadowed receiver ends. -/
def unresolved : Text :=
  "resolve"

def Unrelated (d : Diagnostic) : Prop :=
  ¬ unresolved <:+ d.message

theorem not_unrelated_shadowing (position : Position) (p : Param) : ¬ Unrelated (shadowing position p) :=
  not_not.mpr ((by decide : unresolved <:+
    Text.ofString " shadows the receiver; generated field accesses will not resolve").trans
      (List.suffix_append _ _))

/-- A finding that ends in a way of another kind is not about a shadowed receiver. -/
theorem unrelated_of_endsIn {d : Diagnostic} {endings : List Text} (ends : d.EndsIn endings)
    (apart : ∀ ending ∈ endings, ¬ unresolved <:+ ending ∧ ¬ ending <:+ unresolved) : Unrelated d :=
  ends.not_suffix apart

end Walker

open Walker (shadowing Unrelated unrelated_of_endsIn not_unrelated_shadowing remarks paramFinding?)

theorem Classified.unrelated_of (names : Combinators) (st : Stmt) :
    ∀ d ∈ (of names st).attached, Unrelated d := by
  intro d member
  exact unrelated_of_endsIn (of_endsIn names st d member) (by decide)

namespace Walker

variable {o : WalkOptions} {depth : UInt64}

theorem unrelated_remarks {names : Combinators} {st : Stmt} :
    ∀ d ∈ remarks o depth (Classified.of names st), Unrelated d := by
  intro d member
  exact unrelated_of_endsIn (remarks_endsIn d member) (by decide)

theorem unrelated_truncation (position : Position) : Unrelated (truncation o position) :=
  unrelated_of_endsIn (truncation_endsIn position) (by decide)

theorem name_of_shadowing {receiver : Text} {position other : Position} {p q : Param}
    (found : paramFinding? receiver position p = some (shadowing other q)) : q.name = receiver := by
  unfold paramFinding? at found
  split at found
  · have same := Option.some.inj found
    have untyped : Diagnostic.EndsIn [" has no component type and is ignored"] (shadowing other q) :=
      same ▸ Diagnostic.endsIn_of_mem List.mem_cons_self _ rfl
    exact absurd (unrelated_of_endsIn untyped (by decide)) (not_unrelated_shadowing other q)
  · split at found
    · rename_i named
      have told := congrArg Diagnostic.message (Option.some.inj found)
      have same : p.name = q.name := List.append_cancel_left (List.append_cancel_right told)
      simp only [Bool.and_eq_true, beq_iff_eq] at named
      rw [← same, named.2]
    · cases found

theorem paramFinding_of_name {receiver : Text} (position : Position) {p : Param} (typed : p.type ≠ [])
    (named : p.name ≠ []) (same : p.name = receiver) :
    paramFinding? receiver position p = some (shadowing position p) := by
  simp [paramFinding?, typed, ← same, named, shadowing]

end Walker

namespace Growth

open Walker (unrelated_remarks unrelated_truncation name_of_shadowing paramFinding_of_name boundParams_eq)

variable {o : WalkOptions} {receiver : Text} {depth : UInt64} {first : Nat} {stmts : List Stmt}
  {segments : Template} {nodes : List Node} {findings : List Diagnostic} {p : Param}

theorem name_of_reported (growth : Growth o receiver depth first stmts segments nodes findings)
    {position : Position} (reported : shadowing position p ∈ findings) : p.name = receiver := by
  induction growth with
  | nil => cases reported
  | @kept st _ _ _ _ _ _ _ _ ih =>
    rcases List.mem_append.mp reported with own | later
    · exact absurd (unrelated_remarks _ own) (not_unrelated_shadowing position p)
    · exact ih later
  | truncated _ _ _ ih =>
    rcases List.mem_cons.mp reported with own | later
    · exact absurd (own ▸ unrelated_truncation _) (not_unrelated_shadowing position p)
    · exact ih later
  | @loop st _ _ _ _ _ _ _ _ _ _ _ _ _ _ _ called _ _ _ ihInside ihRest =>
    simp only [List.mem_append] at reported
    obtain ((own | with_call) | inward) | later := reported
    · obtain ⟨q, -, found⟩ := List.mem_filterMap.mp own
      exact name_of_shadowing found
    · have unrelated := Classified.unrelated_of o.names st
      rw [called] at unrelated
      exact absurd (unrelated _ with_call) (not_unrelated_shadowing position p)
    · exact ihInside inward
    · exact ihRest later

theorem reported_of_name (growth : Growth o receiver depth first stmts segments nodes findings)
    {n : Node} (member : n ∈ nodes) (bound : p ∈ n.bindings) (named : p.name ≠ [])
    (same : p.name = receiver) : shadowing n.position p ∈ findings := by
  induction growth with
  | nil => cases member
  | kept _ _ ih => exact List.mem_append_right _ (ih member)
  | truncated _ _ _ ih => exact List.mem_cons_of_mem _ (ih member)
  | loop _ _ _ _ ihInside ihRest =>
    simp only [List.mem_append]
    rcases List.mem_cons.mp member with rfl | other
    · rw [Walker.nodeOf_bindings, boundParams_eq, List.mem_filter] at bound
      have typed : p.type ≠ [] := by simpa using bound.2
      exact .inl (.inl (.inl (List.mem_filterMap.mpr
        ⟨p, bound.1, paramFinding_of_name _ typed named same⟩)))
    · rcases List.mem_append.mp other with within | later
      · exact .inl (.inr (ihInside within))
      · exact .inr (ihRest later)

end Growth

namespace Method

open Loop (Laid Spelled)

variable {m : Method} {o : WalkOptions} {options : UnitOptions} {a : Analysis} {parts : Assembly}
  {warnings : List Diagnostic}

/-- The receiver of a unit is that of its method, or the default one if that has no name. -/
theorem receiver_of_analyse (analysed : analyse (some m) o = .ok a)
    (assembled : Assembly.ofAnalysis a options = .ok (parts, warnings)) :
    parts.receiver = if m.receiver = [] ∨ m.receiver = Text.ofString "_" then Assembly.defaultReceiver
      else m.receiver := by
  rw [(Assembly.fields_of_ofAnalysis assembled).1]
  obtain ⟨_, _, _, -, -, rfl⟩ := growth_of_analyse analysed
  simp [Assembly.receiverOf, analysis]

/-- A loop reports a parameter that it binds exactly when it is named as the receiver of its method. -/
theorem reported_iff (analysed : analyse (some m) o = .ok a) {n : Node} {p : Param} (member : n ∈ a.nodes)
    (bound : p ∈ n.bindings) (named : p.name ≠ []) :
    shadowing n.position p ∈ a.diagnostics ↔ p.name = m.receiver := by
  obtain ⟨preamble, nodes, findings, growth, distinct, rfl⟩ := growth_of_analyse analysed
  rw [nodes_analysis distinct] at member
  exact ⟨growth.name_of_reported, growth.reported_of_name member bound named⟩

/-- The nodes of an analysed method stand for the calls that are expanded, each at the place of its
call. -/
theorem stands_for_of_analyse (analysed : analyse (some m) o = .ok a) :
    List.Forall₂ (Expansion.StandsFor o.names) (Expansion.calls o.names 0 m.body) a.nodes := by
  obtain ⟨preamble, nodes, findings, growth, distinct, rfl⟩ := growth_of_analyse analysed
  rw [nodes_analysis distinct, ← o.names_complete]
  exact growth.stands_for

/-- The body of the unit of a method is spelled from the nodes of the method, one loop for every node, and
addresses its fields by the receiver of the unit. A binding is reported at the place of its call exactly
when it has the name of the receiver of the method. So every binding that has the name of the receiver of
the unit is reported exactly when the receiver of the method has a name, or no loop binds the default
one. -/
theorem shadowing_reported_iff (analysed : analyse (some m) o = .ok a)
    (assembled : Assembly.ofAnalysis a options = .ok (parts, warnings)) :
    List.Forall₂ (Expansion.StandsFor o.names) (Expansion.calls o.names 0 m.body) a.nodes ∧
    (Assembly.loopOptions a options).receiver = parts.receiver ∧
    ∃ texts loops, parts.body = Source.indentBy 1 (Text.unlines texts) ∧
      Spelled (Assembly.loopOptions a options) (a.arena.getD .empty).lookup? a.preamble texts loops ∧
      loops.map Laid.node = a.nodes ∧
      (∀ l ∈ loops, ∀ b ∈ l.bindings,
        shadowing l.node.position b.1 ∈ a.diagnostics ↔ b.1.name = m.receiver) ∧
      ((∀ l ∈ loops, ∀ b ∈ l.bindings, b.1.name = parts.receiver →
          shadowing l.node.position b.1 ∈ a.diagnostics) ↔
        (m.receiver = [] ∨ m.receiver = Text.ofString "_" →
          ∀ n ∈ a.nodes, ∀ p ∈ n.bindings, p.name ≠ Assembly.defaultReceiver)) := by
  obtain ⟨texts, loops, body, spelled, nodes, -⟩ := spelled_of_analyse analysed assembled
  have reported (l : Laid) (member : l ∈ loops) : ∀ b ∈ l.bindings,
      shadowing l.node.position b.1 ∈ a.diagnostics ↔ b.1.name = m.receiver := by
    intro b binds
    have bound := Laid.exists_mem_iff.mp ⟨b.2, binds⟩
    exact reported_iff analysed (nodes ▸ List.mem_map_of_mem member) bound.1 bound.2.1
  refine ⟨stands_for_of_analyse analysed, (Assembly.fields_of_ofAnalysis assembled).1.symm, texts, loops, body,
    spelled, nodes, reported, ?_⟩
  have missed : (∀ l ∈ loops, ∀ b ∈ l.bindings, b.1.name = parts.receiver →
        shadowing l.node.position b.1 ∈ a.diagnostics) ↔
      ∀ n ∈ a.nodes, ∀ p ∈ n.bindings, p.name ≠ [] ∧ p.name ≠ Text.ofString "_" →
        p.name = parts.receiver → p.name = m.receiver := by
    rw [← nodes, ← Laid.forall_bindings_iff (P := fun _ p => p.name = parts.receiver → p.name = m.receiver)]
    refine forall₂_congr fun l placed => forall₂_congr fun b binds => ?_
    rw [reported l placed b binds]
  rw [missed, receiver_of_analyse analysed assembled]
  by_cases unnamed : m.receiver = [] ∨ m.receiver = Text.ofString "_"
  · have other : Assembly.defaultReceiver ≠ m.receiver := by
      rintro same
      rw [← same] at unnamed
      exact absurd unnamed (by decide)
    simp only [unnamed, if_true, true_imp_iff]
    refine forall₂_congr fun n member => forall₂_congr fun p bound => ?_
    constructor
    · intro named same
      exact other (same.symm.trans (named (by rw [same]; decide) same))
    · intro apart _ same
      exact absurd same apart
  · simp only [unnamed, if_false, false_imp_iff, iff_true]
    exact fun n _ p _ _ same => same

/-- A method whose receiver has no name, with a loop that binds the name that stands in for it. -/
def nameless : Method :=
  { system := "Motion"
    package := "motion"
    body := [
      .callWith "Each(func(sys *Pos) \x7b use(sys) \x7d)" {} [⟨"Each", []⟩] (some [⟨"Pos", "sys"⟩]) true
        [.text "use(sys)" {}]] }

/-- The variable of the loop hides the receiver of the unit, and nothing is reported. -/
theorem shadowing_reported_iff_nameless :
    ∃ a parts warnings, analyse (some nameless) {} = .ok a ∧
      Assembly.ofAnalysis a {} = .ok (parts, warnings) ∧ a.diagnostics = [] ∧
      parts.body = Source.indentBy 1 (Text.unlines [
        "for index0 := 0; index0 < sys.query_Pos.Count(); index0++ \x7b",
        "\tsys := &sys.poolPos.Items[sys.query_Pos.Entities[index0]]",
        "\tuse(sys)",
        "\x7d"]) ∧
      ∃ texts loops, parts.body = Source.indentBy 1 (Text.unlines texts) ∧
        Spelled (Assembly.loopOptions a {}) (a.arena.getD .empty).lookup? a.preamble texts loops ∧
        ¬ ∀ l ∈ loops, ∀ b ∈ l.bindings, b.1.name = parts.receiver →
          shadowing l.node.position b.1 ∈ a.diagnostics := by
  obtain ⟨a, analysed, silent, hidden⟩ : ∃ a, analyse (some nameless) {} = .ok a ∧ a.diagnostics = [] ∧
      ¬ ∀ n ∈ a.nodes, ∀ p ∈ n.bindings, p.name ≠ Assembly.defaultReceiver :=
    ⟨_, rfl, by decide +kernel, by decide +kernel⟩
  obtain ⟨parts, warnings, assembled, text⟩ := unit_of_analyse (by decide) analysed {}
  obtain ⟨-, -, texts, loops, body, spelled, -, -, reported⟩ := shadowing_reported_iff analysed assembled
  exact ⟨a, parts, warnings, analysed, assembled, silent, text.trans (congrArg _ (by decide +kernel)),
    texts, loops, body, spelled, fun all => hidden (reported.mp all (.inl rfl))⟩

end Method

end SystemLoops
