import SystemLoops.Proofs.Expansion

/-!
Queries shared by name. The first loop of a name decides the query, and a loop that leaves out other
components is warned about, so only the component types can go wrong unnoticed. Main statement: every
loop reads a query over its own components exactly when no two loops over different components are
given one name. Names do not tell all lists of components apart.
-/

namespace SystemLoops

namespace Declared

def wanted (n : Node) : QueryDecl :=
  ⟨n.signature, n.types, n.excluded⟩

variable {d : Declared} {n : Node} {nodes : List Node} {q : QueryDecl} {c : Conflict}

/-! ### One more node -/

theorem query_add (d : Declared) (n : Node) (name : Text) :
    (d.add n).query? name =
      (d.query? name).or (if n.signature = name then some (wanted n) else none) := by
  unfold add
  cases shared : d.query? n.signature with
  | some q =>
    have unchanged : (if q.exclusions == n.excluded then d else
        { d with conflicts := d.conflicts ++ [⟨n.signature, n.key, q.exclusions, n.excluded⟩] }).query?
          name = d.query? name := by
      split <;> rfl
    rw [unchanged]
    by_cases same : n.signature = name
    · subst same
      rw [shared]
      rfl
    · simp [same]
  | none =>
    simp only [query?, List.find?_append]
    by_cases same : n.signature = name
    · simp [same, wanted]
    · simp [same]

theorem mem_conflicts_add (earlier : c ∈ d.conflicts) (n : Node) : c ∈ (d.add n).conflicts := by
  unfold add
  split
  · split
    · exact earlier
    · exact List.mem_append_left _ earlier
  · exact earlier

theorem conflict_add (shared : d.query? n.signature = some q) (differ : q.exclusions ≠ n.excluded) :
    ⟨n.signature, n.key, q.exclusions, n.excluded⟩ ∈ (d.add n).conflicts := by
  simp [add, shared, differ]

/-! ### All nodes -/

theorem query_foldl_add (nodes : List Node) (d : Declared) (name : Text) :
    (nodes.foldl add d).query? name =
      (d.query? name).or ((nodes.find? fun n => n.signature == name).map wanted) := by
  induction nodes generalizing d with
  | nil => simp
  | cons n rest ih =>
    rw [List.foldl_cons, ih, query_add, Option.or_assoc]
    by_cases same : n.signature = name
    · simp [same]
    · simp [same]

/-- The query of a name is the one that the first node of the name asks for. -/
theorem query_ofNodes (nodes : List Node) (name : Text) :
    (ofNodes nodes).query? name = (nodes.find? fun n => n.signature == name).map wanted :=
  (query_foldl_add nodes {} name).trans (Option.none_or)

theorem mem_conflicts_foldl_add (earlier : c ∈ d.conflicts) (nodes : List Node) :
    c ∈ (nodes.foldl add d).conflicts := by
  induction nodes generalizing d with
  | nil => exact earlier
  | cons n rest ih => exact ih (mem_conflicts_add earlier n)

/-- A node that leaves out other components than the query of its name is in conflict. -/
theorem conflict_foldl_add (member : n ∈ nodes)
    (declared : (nodes.foldl add d).query? n.signature = some q) (differ : q.exclusions ≠ n.excluded) :
    ⟨n.signature, n.key, q.exclusions, n.excluded⟩ ∈ (nodes.foldl add d).conflicts := by
  induction nodes generalizing d with
  | nil => cases member
  | cons first rest ih =>
    rcases List.mem_cons.mp member with rfl | later
    · rw [List.foldl_cons, query_foldl_add, query_add] at declared
      cases shared : d.query? n.signature with
      | none =>
        simp only [shared, if_true, Option.none_or, Option.some_or, Option.some.injEq] at declared
        subst declared
        exact absurd rfl differ
      | some earlier =>
        simp only [shared, Option.some_or, Option.some.injEq] at declared
        subst declared
        exact mem_conflicts_foldl_add (conflict_add shared differ) rest
    · exact ih later declared

/-- The node whose components a query was declared for has the name of the query. -/
theorem exists_first (member : n ∈ nodes) :
    ∃ first ∈ nodes, first.signature = n.signature ∧
      (ofNodes nodes).query? n.signature = some (wanted first) := by
  have present : (nodes.find? fun m => m.signature == n.signature).isSome := by
    rw [List.find?_isSome]
    exact ⟨n, member, beq_self_eq_true _⟩
  obtain ⟨first, found⟩ := Option.isSome_iff_exists.mp present
  refine ⟨first, List.mem_of_find?_eq_some found, by simpa using List.find?_some found, ?_⟩
  rw [query_ofNodes, found, Option.map_some]

end Declared

/-! ### Warnings -/

/-- A warning that the exclusions of the loop of a key are not applied. -/
def Diagnostic.IsAbout (d : Diagnostic) (key : Key) : Prop :=
  d.severity = .warning ∧
    ∃ before : Text, d.message = before ++ " of " ++ key.render ++ " are not applied"

namespace Assembly

variable {a : Analysis} {options : UnitOptions} {parts : Assembly} {warnings : List Diagnostic}

theorem conflictWarning_isAbout (arena : Arena) (c : Conflict) :
    (conflictWarning arena c).IsAbout c.node := by
  have close : Text.ofString "] of " = Text.ofString "]" ++ Text.ofString " of " := by decide
  refine ⟨rfl, "query " ++ c.name ++ " already filters [" ++ Text.join ", " c.kept
    ++ "]; exclusions [" ++ Text.join ", " c.dropped ++ "]", ?_⟩
  simp [conflictWarning, Diagnostic.warn, close]

/-- A unit declares the queries of its nodes, and its warnings are about the conflicts between them. -/
theorem declared_of_ofAnalysis (assembled : ofAnalysis a options = .ok (parts, warnings)) :
    parts.queries = (Declared.ofNodes a.nodes).queries.map
        (fun q => ⟨q.name, queryInit parts.runtime q⟩) ∧
      warnings =
        (Declared.ofNodes a.nodes).conflicts.map (conflictWarning (a.arena.getD .empty)) := by
  unfold ofAnalysis at assembled
  split at assembled
  · cases assembled
  · dsimp only at assembled
    split at assembled
    · cases assembled
    · cases assembled
      exact ⟨rfl, rfl⟩

end Assembly

/-- A query leaves out what a loop leaves out, or a warning is about the loop. -/
def Filters (warnings : List Diagnostic) (q : QueryDecl) (n : Node) : Prop :=
  q.exclusions = n.excluded ∨ ∃ w ∈ warnings, w.IsAbout n.key

namespace Method

variable {m : Method} {o : WalkOptions} {a : Analysis} {options : UnitOptions} {parts : Assembly}
  {warnings : List Diagnostic} {n : Node}

theorem signature_eq (analysed : analyse (some m) o = .ok a) (member : n ∈ a.nodes) :
    n.signature = Signature.name o.complete.queryLead n.types := by
  obtain ⟨preamble, nodes, findings, growth, distinct, rfl⟩ := growth_of_analyse analysed
  rw [nodes_analysis distinct] at member
  exact growth.signed member

theorem query_mem (assembled : Assembly.ofAnalysis a options = .ok (parts, warnings))
    (declared : (Declared.ofNodes a.nodes).query? name = some q) :
    ⟨name, Assembly.queryInit parts.runtime q⟩ ∈ parts.queries := by
  have named : q.name = name := by simpa using List.find?_some declared
  rw [(Assembly.declared_of_ofAnalysis assembled).1, ← named]
  exact List.mem_map_of_mem (List.mem_of_find?_eq_some declared)

theorem filters_of_declared (assembled : Assembly.ofAnalysis a options = .ok (parts, warnings))
    (member : n ∈ a.nodes) (declared : (Declared.ofNodes a.nodes).query? n.signature = some q) :
    Filters warnings q n := by
  by_cases same : q.exclusions = n.excluded
  · exact .inl same
  · have conflict := Declared.conflict_foldl_add member declared same
    have about := Assembly.conflictWarning_isAbout (a.arena.getD .empty)
      ⟨n.signature, n.key, q.exclusions, n.excluded⟩
    refine .inr ⟨_, ?_, about⟩
    rw [(Assembly.declared_of_ofAnalysis assembled).2]
    exact List.mem_map_of_mem conflict

/-- Every loop finds a query of its name in the unit, which filters as the loop does unless there is a
warning. The queries are over the components of their loops exactly when no two loops over different
components have one name. -/
theorem queries_match_iff (analysed : analyse (some m) o = .ok a)
    (assembled : Assembly.ofAnalysis a options = .ok (parts, warnings)) :
    (∀ n ∈ a.nodes, ∃ q, (Declared.ofNodes a.nodes).query? n.signature = some q ∧
      ⟨n.signature, Assembly.queryInit parts.runtime q⟩ ∈ parts.queries ∧ Filters warnings q n) ∧
    ((∀ n ∈ a.nodes, ∃ q, (Declared.ofNodes a.nodes).query? n.signature = some q ∧
        q.types = n.types ∧ Filters warnings q n) ↔
      ∀ n ∈ a.nodes, ∀ other ∈ a.nodes, Signature.name o.complete.queryLead n.types =
        Signature.name o.complete.queryLead other.types → n.types = other.types) := by
  have served : ∀ n ∈ a.nodes, ∃ first ∈ a.nodes, first.signature = n.signature ∧
      (Declared.ofNodes a.nodes).query? n.signature = some (Declared.wanted first) ∧
        Filters warnings (Declared.wanted first) n := by
    intro n member
    obtain ⟨first, earlier, same, declared⟩ := Declared.exists_first member
    exact ⟨first, earlier, same, declared, filters_of_declared assembled member declared⟩
  refine ⟨?_, ?_, ?_⟩
  · intro n member
    obtain ⟨first, -, -, declared, filters⟩ := served n member
    exact ⟨_, declared, query_mem assembled declared, filters⟩
  · intro matching n member other beside same
    obtain ⟨q, declared, own, -⟩ := matching n member
    obtain ⟨r, shared, others, -⟩ := matching other beside
    rw [signature_eq analysed member, same, ← signature_eq analysed beside, shared] at declared
    cases declared
    exact own.symm.trans others
  · intro apart n member
    obtain ⟨first, earlier, same, declared, filters⟩ := served n member
    refine ⟨_, declared, apart first earlier n member ?_, filters⟩
    rw [← signature_eq analysed earlier, same, signature_eq analysed member]

/-- A loop over one component, and a loop over two components whose types read the same when they are
joined. -/
def ambiguous : Method :=
  { system := "Motion"
    receiver := "m"
    body := [
      .callWith "m.Each(f)" {} [⟨"Each", []⟩] (some [⟨"Pos_Vel", "pv"⟩]) true
        [.text "use(pv)" {}],
      .callWith "m.Each(g)" {} [⟨"Each", []⟩] (some [⟨"Pos", "p"⟩, ⟨"Vel", "v"⟩]) true
        [.text "use(p, v)" {}]] }

/-- The second loop reads the query of the first. -/
theorem queries_mismatch_ambiguous :
    ∃ a parts warnings, analyse (some ambiguous) {} = .ok a ∧
      Assembly.ofAnalysis a {} = .ok (parts, warnings) ∧ warnings = [] ∧
        ¬ ∀ n ∈ a.nodes, ∃ q, (Declared.ofNodes a.nodes).query? n.signature = some q ∧
          q.types = n.types ∧ Filters warnings q n := by
  obtain ⟨a, analysed, mixed, quiet⟩ : ∃ a, analyse (some ambiguous) {} = .ok a ∧
      (¬ ∀ n ∈ a.nodes, ∀ other ∈ a.nodes, Signature.name "query_" n.types =
        Signature.name "query_" other.types → n.types = other.types) ∧
        (Declared.ofNodes a.nodes).conflicts = [] :=
    ⟨_, rfl, by decide +kernel, by decide +kernel⟩
  obtain ⟨parts, warnings, assembled, -⟩ := unit_of_analyse (by decide) analysed {}
  refine ⟨a, parts, warnings, analysed, assembled, ?_, ?_⟩
  · rw [(Assembly.declared_of_ofAnalysis assembled).2, quiet, List.map_nil]
  · exact fun matching => mixed ((queries_match_iff analysed assembled).2.mp matching)

end Method

end SystemLoops
