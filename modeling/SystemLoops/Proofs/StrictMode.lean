import SystemLoops.Proofs.Declarations
import SystemLoops.Proofs.Outcomes

/-!
Strict mode. Whatever the analysis and the merging of queries leave out or change, they warn about, and
in strict mode a warning costs the unit. Main statement: a unit that is generated in strict mode
expands every call of the combinator with all of its parameters, and each of its loops leaves out what
its call leaves out.
-/

namespace SystemLoops

/-- The outermost member that a statement calls has a name. -/
def Stmt.Calls (st : Stmt) (name : Text) : Prop :=
  ∃ last, st.outermost? = some last ∧ last.name = name

/-- None of some findings is a warning or graver. -/
def Quiet (findings : List Diagnostic) : Prop :=
  ∀ d ∈ findings, d.isWarning = false

/-- A template keeps everything that a body at a depth says: every call of the combinator has a node with
all of its parameters and exclusions, whose own body is kept in the same way; every other statement
stands as it is, and no statement inside a loop leaves the method. -/
inductive Intact (names : Combinators) (nodes : List Node) : Nat → List Stmt → Template → Prop where
  | nil : Intact names nodes depth [] []
  | kept (other : ¬ st.Calls names.each)
      (stays : 0 < depth → ∀ source position, st = .text source position →
        Walker.startsWithReturn source = false)
      (rest : Intact names nodes depth stmts segments) :
      Intact names nodes depth (st :: stmts) (.text st.source :: segments)
  | loop (last : chain.getLast? = some outermost) (called : outermost.name = names.each)
      (present : n ∈ nodes) (level : n.key.depth.toNat = depth)
      (binds : n.bindings = params.getD [])
      (filters : n.excluded = Classified.exclusions names chain)
      (inside : Intact names nodes (depth + 1) body n.body)
      (rest : Intact names nodes depth stmts segments) :
      Intact names nodes depth (.callWith source position chain params true body :: stmts)
        (.hole n.key :: segments)

theorem quiet_append {first second : List Diagnostic} :
    Quiet (first ++ second) ↔ Quiet first ∧ Quiet second := by
  simp [Quiet, or_imp, forall_and]

theorem find?_eq_none_iff_quiet {findings : List Diagnostic} :
    findings.find? Diagnostic.isWarning = none ↔ Quiet findings := by
  simp [Quiet]

@[simp] theorem isWarning_warn (position : Position) (message : Text) :
    (Diagnostic.warn position message).isWarning = true := rfl

theorem not_quiet_of_mem {findings : List Diagnostic} {d : Diagnostic} (member : d ∈ findings)
    (warns : d.isWarning = true) : ¬ Quiet findings := by
  intro quiet
  rw [quiet d member] at warns
  cases warns

/-! ### What a statement is warned about -/

namespace Classified

variable {names : Combinators} {st : Stmt}

theorem of_calls (calls : st.Calls names.each) : of names st = ofEach names st := by
  obtain ⟨last, outermost, called⟩ := calls
  simp [of, outermost, called]

theorem calls_of_iteration
    (called : of names st = .iteration source position params excluded body findings) :
    st.Calls names.each := by
  unfold of at called
  split at called
  · cases called
  · rename_i last outermost
    split at called
    · rename_i name
      exact ⟨last, outermost, by simpa using name⟩
    · split at called
      · cases called
      · split at called <;> cases called

theorem of_calls_kept (calls : st.Calls names.each) (plain : (of names st).isIteration = false) :
    ∃ d, of names st = .plain st.source st.position (some d) ∧ d.isWarning = true := by
  rw [of_calls calls] at plain ⊢
  unfold ofEach at plain ⊢
  split
  · exact ⟨_, rfl, rfl⟩
  · split
    · exact ⟨_, rfl, rfl⟩
    · rename_i l literal hasBody
      simp [literal, hasBody, isIteration] at plain

theorem exclusions_of_iteration
    (called : of names st = .iteration source position params excluded body findings) :
    excluded = exclusions names st.chain := by
  rw [of_calls (calls_of_iteration called)] at called
  unfold ofEach at called
  split at called
  · cases called
  · split at called <;> cases called
    rfl

end Classified

namespace Walker

variable {o : WalkOptions} {depth : UInt64}

theorem mem_remarks_plain (o : WalkOptions) (depth : UInt64) (source : Text) (position : Position)
    (d : Diagnostic) : d ∈ remarks o depth (.plain source position (some d)) := by
  simp [remarks, keep, notePlain, note]

/-- Without a warning, a kept statement does not call the combinator. -/
theorem not_calls_of_quiet {st : Stmt} (plain : (Classified.of o.names st).isIteration = false)
    (quiet : Quiet (remarks o depth (Classified.of o.names st))) : ¬ st.Calls o.names.each := by
  intro calls
  obtain ⟨d, kept, warns⟩ := Classified.of_calls_kept calls plain
  rw [kept] at quiet
  exact not_quiet_of_mem (mem_remarks_plain o depth _ _ d) warns quiet

theorem stays_of_quiet {source : Text} {position : Position} (inner : 0 < depth)
    (quiet : Quiet (remarks o depth (Classified.of o.names (.text source position)))) :
    startsWithReturn source = false := by
  by_contra leaves
  rw [Bool.not_eq_false] at leaves
  have plain : Classified.of o.names (.text source position) = .plain source position none := rfl
  obtain ⟨message, first⟩ : ∃ message : Text,
      (remarks o depth (.plain source position none)).head? = some (.warn position message) := by
    simp only [remarks, keep, gt_iff_lt, inner, leaves, decide_true, Bool.and_self, if_true,
      notePlain, note, List.nil_append]
    split <;> exact ⟨_, rfl⟩
  rw [plain] at quiet
  exact not_quiet_of_mem (List.mem_of_mem_head? first) (isWarning_warn position message) quiet

theorem boundParams_of_quiet {receiver : Text} {position : Position} {params : List Param}
    (quiet : Quiet (params.filterMap (paramFinding? receiver position))) :
    boundParams params = params := by
  refine List.filter_eq_self.mpr fun p member => ?_
  by_contra untyped
  have ignored : p.type = [] := by simpa using untyped
  have warned : paramFinding? receiver position p = some (.warn position
      ("parameter " ++ p.name ++ " has no component type and is ignored")) :=
    if_pos (List.isEmpty_iff.mpr ignored)
  exact not_quiet_of_mem (List.mem_filterMap.mpr ⟨p, member, warned⟩) (isWarning_warn position _) quiet

end Walker

/-- A body that grows without a warning is kept intact. -/
theorem Growth.intact {o : WalkOptions} {receiver : Text} {depth : UInt64} {first : Nat}
    {stmts : List Stmt} {segments : Template} {nodes all : List Node} {findings : List Diagnostic}
    (growth : Growth o receiver depth first stmts segments nodes findings) (quiet : Quiet findings)
    (among : ∀ n ∈ nodes, n ∈ all) : Intact o.names all depth.toNat stmts segments := by
  induction growth with
  | nil => exact .nil
  | @kept st depth _ _ _ _ _ plain _ ih =>
    obtain ⟨own, others⟩ := quiet_append.mp quiet
    refine .kept (Walker.not_calls_of_quiet plain own) ?_ (ih others among)
    rintro inner source position rfl
    exact Walker.stays_of_quiet (UInt64.lt_iff_toNat_lt.mpr inner) own
  | truncated =>
    -- an omitted iteration is always warned about
    exact absurd quiet (not_quiet_of_mem List.mem_cons_self (isWarning_warn _ _))
  | loop called shallow _ _ ihInside ihRest =>
    obtain ⟨enclosed, others⟩ := quiet_append.mp quiet
    obtain ⟨own, inward⟩ := quiet_append.mp enclosed
    have bound := Walker.boundParams_of_quiet (quiet_append.mp own).1
    obtain ⟨outermost, last, name⟩ := Classified.calls_of_iteration called
    have excluded := Classified.exclusions_of_iteration called
    obtain ⟨chain, given, rfl, rfl⟩ := Classified.of_eq_iteration called
    have inside := ihInside inward fun n member => among n (by simp [member])
    rw [toNat_succ_of_shallow shallow] at inside
    have rest := ihRest others fun n member => among n (by simp [member])
    exact .loop last name (among _ List.mem_cons_self) rfl
      ((Walker.nodeOf_bindings ..).trans bound) ((Walker.nodeOf_excluded ..).trans excluded) inside rest

/-! ### From a method to its outcome -/

namespace Outcome

variable {o : BatchOptions} {m : Method} {u : GeneratedUnit}

theorem quiet_of_underStrict {r : Outcome} (made : (underStrict true r).unit = some u) :
    r.unit = some u ∧ Quiet u.diagnostics ∧ (underStrict true r).analysis = r.analysis := by
  cases found : r.diagnostics.find? Diagnostic.isWarning with
  | none =>
    rw [underStrict_silent found] at made ⊢
    have told : r.diagnostics = u.diagnostics := by simp [diagnostics, made]
    exact ⟨made, told ▸ find?_eq_none_iff_quiet.mp found, rfl⟩
  | some d =>
    rw [underStrict_warned found] at made
    cases made

theorem process_of_analyse {a : Analysis} (analysed : Method.analyse (some m) o.walk = .ok a) :
    process o true m = generate o a { system := m.system, analysis := some a } := by
  simp only [process, analysed, if_true]

theorem generate_of_ok {a : Analysis} (strict : o.strict = true)
    (generated : GeneratedUnit.ofAnalysis a o.unit = .ok u) (r : Outcome) :
    generate o a r = underStrict true { r with unit := some u } := by
  simp only [generate, generated, strict]

/-- The unit of an outcome is the unit of the method, without a warning if it is a strict one. -/
theorem unit_of_process (strict : o.strict = true) (made : (process o true m).unit = some u) :
    ∃ a, Method.analyse (some m) o.walk = .ok a ∧ (process o true m).analysis = some a ∧
      GeneratedUnit.ofAnalysis a o.unit = .ok u ∧ Quiet u.diagnostics := by
  cases analysed : Method.analyse (some m) o.walk with
  | error t => cases t <;> simp [process, analysed, aborted, failed] at made
  | ok a =>
    rw [process_of_analyse analysed] at made ⊢
    cases generated : GeneratedUnit.ofAnalysis a o.unit with
    | error t => cases t <;> simp [generate, generated, aborted, failed] at made
    | ok unit =>
      rw [generate_of_ok strict generated] at made ⊢
      obtain ⟨same, quiet, kept⟩ := quiet_of_underStrict made
      cases same
      exact ⟨a, rfl, kept, generated, quiet⟩

end Outcome

namespace Method

open Assembly (Drawn)

variable {m : Method} {o : WalkOptions} {options : UnitOptions} {a : Analysis} {parts : Assembly}
  {warnings : List Diagnostic}

theorem intact_of_quiet (analysed : analyse (some m) o = .ok a) (quiet : Quiet a.diagnostics) :
    Intact o.names a.nodes 0 m.body a.preamble := by
  obtain ⟨preamble, nodes, findings, growth, distinct, rfl⟩ := growth_of_analyse analysed
  rw [nodes_analysis distinct, ← o.names_complete]
  exact growth.intact quiet fun n member => member

/-- Without a warning, every loop reads a query that leaves out what the loop does. -/
theorem filtered_of_quiet (assembled : Assembly.ofAnalysis a options = .ok (parts, warnings))
    (quiet : Quiet warnings) : ∀ n ∈ a.nodes, ∃ q,
      (Declared.ofNodes a.nodes).query? n.signature = some q ∧ q.exclusions = n.excluded ∧
        ⟨n.signature, Assembly.queryInit parts.runtime q⟩ ∈ parts.queries := by
  intro n member
  obtain ⟨first, -, -, declared⟩ := Declared.exists_first member
  refine ⟨_, declared, ?_, query_mem assembled declared⟩
  rcases filters_of_declared assembled member declared with same | ⟨w, warned, grave, -⟩
  · exact same
  · have warns : w.isWarning = true := by
      rw [Diagnostic.isWarning, grave]
      rfl
    exact absurd quiet (not_quiet_of_mem warned warns)

/-- A unit that a strict run generates for a method keeps all of the method: its template is intact, so
every call of the combinator is expanded with all of its parameters and no statement in a loop starts
with a return; its body is drawn from that template; and the query that a loop reads is declared with
exactly the exclusions of its node. -/
theorem strict_unit_intact {o : BatchOptions} {isCancelled : Bool} {methods : List Method} {batch : Batch}
    {i : Nat} {r : Outcome} {u : GeneratedUnit} (strict : o.strict = true)
    (ran : Batch.run o true isCancelled methods = .ok batch) (asked : methods[i]? = some m)
    (answered : batch[i]? = some r) (made : r.unit = some u) :
    ∃ a parts warnings pieces, analyse (some m) o.walk = .ok a ∧ r.analysis = some a ∧
      Assembly.ofAnalysis a o.unit.complete = .ok (parts, warnings) ∧
      GeneratedUnit.finish o.unit.complete (Layout.render { parts with digest := a.digest }) =
        .ok (some u.source) ∧
      parts.body = Source.indentBy 1 (Text.unlines (pieces.map Loop.Rendered.text)) ∧
      Drawn parts a.nodes a.preamble pieces ∧
      Intact o.walk.names a.nodes 0 m.body a.preamble ∧
      ∀ n ∈ a.nodes, ∃ q, (Declared.ofNodes a.nodes).query? n.signature = some q ∧
        q.exclusions = n.excluded ∧
        ⟨n.signature, Assembly.queryInit parts.runtime q⟩ ∈ parts.queries := by
  obtain rfl : Outcome.process o true m = r := by
    unfold Batch.run at ran
    split at ran
    · cases ran
    · cases ran
      rw [List.getElem?_map, asked] at answered
      exact Option.some.inj answered
  obtain ⟨a, analysed, kept, generated, quiet⟩ := Outcome.unit_of_process strict made
  obtain ⟨-, parts, warnings, source, assembled, finished, rfl⟩ :=
    GeneratedUnit.ofAnalysis_eq_ok.mp generated
  obtain ⟨found, merged⟩ := quiet_append.mp quiet
  obtain ⟨pieces, body, drawn⟩ := drawn_of_analyse analysed assembled
  exact ⟨a, parts, warnings, pieces, analysed, kept, assembled, finished, body, drawn,
    intact_of_quiet analysed found, filtered_of_quiet assembled merged⟩

/-- A strict run that writes units as they are laid out. -/
def strictly : BatchOptions :=
  { unit := { format := false }, strict := true }

/-- Nothing is found in the loop inside a loop, so it has a unit. -/
theorem strict_unit_intact_nested :
    ∃ r u a, Batch.run strictly true false [nested] = .ok [r] ∧ r.unit = some u ∧
      r.analysis = some a ∧ Intact {} a.nodes 0 nested.body a.preamble := by
  obtain ⟨a, analysed, validated, found, merged⟩ : ∃ a, analyse (some nested) strictly.walk = .ok a ∧
      a.validate = .ok () ∧ a.diagnostics = [] ∧ (Declared.ofNodes a.nodes).conflicts = [] :=
    ⟨_, rfl, rfl, by decide +kernel, by decide +kernel⟩
  obtain ⟨parts, warnings, assembled, -⟩ := unit_of_analyse (by decide) analysed strictly.unit.complete
  have silent : warnings = [] := by
    rw [(Assembly.declared_of_ofAnalysis assembled).2, merged, List.map_nil]
  obtain ⟨u, generated, told⟩ : ∃ u, GeneratedUnit.ofAnalysis a strictly.unit = .ok u ∧
      u.diagnostics = [] :=
    ⟨_, GeneratedUnit.ofAnalysis_eq_ok.mpr ⟨validated, parts, warnings, _, assembled, rfl, rfl⟩,
      by rw [found, silent, List.nil_append]⟩
  have made : (Outcome.process strictly true nested).unit = some u := by
    rw [Outcome.process_of_analyse analysed, Outcome.generate_of_ok rfl generated]
    simp [Outcome.underStrict, Outcome.diagnostics, told]
  have ran : Batch.run strictly true false [nested] =
      .ok [Outcome.process strictly true nested] := rfl
  obtain ⟨a, -, -, -, -, kept, -, -, -, -, intact, -⟩ := strict_unit_intact rfl ran
    List.getElem?_cons_zero List.getElem?_cons_zero made
  exact ⟨_, u, a, ran, made, kept, intact⟩

end Method

end SystemLoops
