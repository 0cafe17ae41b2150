import SystemLoops.Proofs.CheckedAccess
import SystemLoops.Proofs.Declarations

/-!
Which node a query is declared for. Nodes are gone through once, with an index from signatures to the
positions of their queries. Main statement: the first node of every signature declares its query, in the
order of the nodes, every later one that leaves out something else is in conflict with it, and further nodes
change nothing of either.
-/

namespace SystemLoops.Declared

variable {d : Declared} {n : Node} {nodes : List Node} {i : Nat} {q : QueryDecl}

def firstOf? (nodes : List Node) (signature : Text) : Option Node :=
  nodes.find? fun n => n.signature == signature

/-- What the node at a position declares: its query, unless a node before it has its signature. -/
def declaredAt (nodes : List Node) (i : Nat) : Option QueryDecl :=
  nodes[i]?.bind fun n =>
    match firstOf? (nodes.take i) n.signature with
    | none => some (wanted n)
    | some _ => none

/-- The conflict of the node at a position with the first node of its signature, if that is another one and
leaves out something else. -/
def conflictAt (nodes : List Node) (i : Nat) : Option Conflict :=
  nodes[i]?.bind fun n => (firstOf? (nodes.take i) n.signature).bind fun first =>
    if first.excluded = n.excluded then none
    else some ⟨n.signature, n.key, first.excluded, n.excluded⟩

/-! ### Going through the nodes -/

/-- What a position gives is settled by the nodes up to it. -/
theorem declaredAt_append (inside : i < nodes.length) (later : List Node) :
    declaredAt (nodes ++ later) i = declaredAt nodes i := by
  rw [declaredAt, declaredAt, List.getElem?_append_left inside,
    List.take_append_of_le_length (Nat.le_of_lt inside)]

theorem conflictAt_append (inside : i < nodes.length) (later : List Node) :
    conflictAt (nodes ++ later) i = conflictAt nodes i := by
  rw [conflictAt, conflictAt, List.getElem?_append_left inside,
    List.take_append_of_le_length (Nat.le_of_lt inside)]

theorem filterMap_range_concat {give : List Node → Nat → Option β}
    (settled : ∀ i < nodes.length, give (nodes ++ [n]) i = give nodes i) :
    (List.range (nodes ++ [n]).length).filterMap (give (nodes ++ [n])) =
      (List.range nodes.length).filterMap (give nodes) ++ (give (nodes ++ [n]) nodes.length).toList := by
  rw [List.length_append, List.length_singleton, List.range_succ, List.filterMap_append]
  have before : (List.range nodes.length).filterMap (give (nodes ++ [n])) =
      (List.range nodes.length).filterMap (give nodes) := by
    apply List.filterMap_congr
    intro i member
    exact settled i (List.mem_range.mp member)
  rw [before, List.filterMap_cons, List.filterMap_nil]
  cases give (nodes ++ [n]) nodes.length <;> rfl

theorem ofNodes_concat (nodes : List Node) (n : Node) :
    ofNodes (nodes ++ [n]) = (ofNodes nodes).add n :=
  List.foldl_append

theorem add_of_fresh (fresh : d.query? n.signature = none) :
    d.add n = { d with queries := d.queries ++ [wanted n] } := by
  rw [add, fresh]
  rfl

theorem add_of_shared (shared : d.query? n.signature = some q) :
    d.add n = if q.exclusions = n.excluded then d
      else { d with conflicts := d.conflicts ++ [⟨n.signature, n.key, q.exclusions, n.excluded⟩] } := by
  rw [add, shared]
  simp only [beq_iff_eq]

/-- A further node declares its query or is in conflict, as its position says. -/
theorem add_ofNodes (nodes : List Node) (n : Node) :
    ((ofNodes nodes).add n).queries =
        (ofNodes nodes).queries ++ (declaredAt (nodes ++ [n]) nodes.length).toList ∧
      ((ofNodes nodes).add n).conflicts =
        (ofNodes nodes).conflicts ++ (conflictAt (nodes ++ [n]) nodes.length).toList := by
  have here : (nodes ++ [n])[nodes.length]? = some n := List.getElem?_concat_length
  have shared := query_ofNodes nodes n.signature
  rw [← firstOf?] at shared
  rw [declaredAt, conflictAt, here, Option.bind_some, Option.bind_some, List.take_left]
  cases earlier : firstOf? nodes n.signature with
  | none =>
    rw [earlier, Option.map_none] at shared
    rw [add_of_fresh shared]
    exact ⟨rfl, (List.append_nil _).symm⟩
  | some first =>
    rw [earlier, Option.map_some] at shared
    have kept : (wanted first).exclusions = first.excluded := rfl
    rw [add_of_shared shared, kept, Option.bind_some]
    by_cases same : first.excluded = n.excluded
    · rw [if_pos same, if_pos same]
      exact ⟨(List.append_nil _).symm, (List.append_nil _).symm⟩
    · rw [if_neg same, if_neg same]
      exact ⟨(List.append_nil _).symm, rfl⟩

theorem ofNodes_eq (nodes : List Node) :
    (ofNodes nodes).queries = (List.range nodes.length).filterMap (declaredAt nodes) ∧
      (ofNodes nodes).conflicts = (List.range nodes.length).filterMap (conflictAt nodes) := by
  induction nodes using List.reverseRecOn with
  | nil => exact ⟨rfl, rfl⟩
  | append_singleton earlier n ih =>
    obtain ⟨queries, conflicts⟩ := add_ofNodes earlier n
    rw [ofNodes_concat, queries, conflicts, ih.1, ih.2,
      filterMap_range_concat fun i inside => declaredAt_append inside [n],
      filterMap_range_concat fun i inside => conflictAt_append inside [n]]
    exact ⟨rfl, rfl⟩

/-- Nothing that was declared or met is changed by a further node. -/
theorem prefix_add (d : Declared) (n : Node) :
    d.queries <+: (d.add n).queries ∧ d.conflicts <+: (d.add n).conflicts := by
  unfold add
  split
  · split
    · exact ⟨List.prefix_rfl, List.prefix_rfl⟩
    · exact ⟨List.prefix_rfl, List.prefix_append _ _⟩
  · exact ⟨List.prefix_append _ _, List.prefix_rfl⟩

theorem prefix_foldl_add (later : List Node) (d : Declared) :
    d.queries <+: (later.foldl add d).queries ∧ d.conflicts <+: (later.foldl add d).conflicts := by
  induction later generalizing d with
  | nil => exact ⟨List.prefix_rfl, List.prefix_rfl⟩
  | cons n rest ih =>
    obtain ⟨queries, conflicts⟩ := prefix_add d n
    exact ⟨queries.trans (ih (d.add n)).1, conflicts.trans (ih (d.add n)).2⟩

/-! ### The index of positions -/

/-- Declarations with an index: the position of the query of every signature met. -/
structure Indexed where
  declared : Declared := {}
  index : List (Text × Nat) := []

namespace Indexed

/-- Declare the query of one more node, with the query of its signature read at its position. -/
def add (d : Indexed) (n : Node) : Except Fault Indexed :=
  match d.index.lookup n.signature with
  | some i =>
    match Checked.read d.declared.queries i with
    | .error f => .error f
    | .ok q =>
      if q.exclusions == n.excluded then .ok d
      else .ok { d with declared.conflicts :=
        d.declared.conflicts ++ [⟨n.signature, n.key, q.exclusions, n.excluded⟩] }
  | none => .ok
      { declared := { d.declared with queries := d.declared.queries ++ [wanted n] }
        index := (n.signature, d.declared.queries.length) :: d.index }

/-- Declare the queries of some nodes, one after the other. -/
def ofNodes (nodes : List Node) : Except Fault Indexed :=
  nodes.foldlM add {}

/-- The index leads to the query of every signature that has one. -/
def Faithful (d : Indexed) : Prop :=
  ∀ name, match d.index.lookup name with
    | some i => ∃ q, d.declared.queries[i]? = some q ∧ d.declared.query? name = some q
    | none => d.declared.query? name = none

variable {d : Indexed}

/-- One node more is declared as without an index, and the index stays faithful. -/
theorem Faithful.add (faithful : d.Faithful) (n : Node) :
    ∃ e, d.add n = .ok e ∧ e.Faithful ∧ e.declared = d.declared.add n := by
  have here := faithful n.signature
  rw [Indexed.add]
  cases known : d.index.lookup n.signature with
  | some i =>
    rw [known] at here
    obtain ⟨q, present, shared⟩ := here
    simp only [Checked.read_of_known present, beq_iff_eq]
    rw [add_of_shared shared]
    split
    · exact ⟨d, rfl, faithful, rfl⟩
    · exact ⟨_, rfl, faithful, rfl⟩
  | none =>
    rw [known] at here
    replace here : d.declared.query? n.signature = none := here
    refine ⟨_, rfl, fun name => ?_, (add_of_fresh here).symm⟩
    have before := faithful name
    have found := query_add d.declared n name
    rw [add_of_fresh here] at found
    dsimp only
    rw [found, List.lookup_cons]
    by_cases same : name = n.signature
    · subst same
      simp [here]
    · rw [beq_false_of_ne same, if_neg (Ne.symm same), Option.or_none]
      cases old : d.index.lookup name with
      | none =>
        rw [old] at before
        exact before
      | some i =>
        rw [old] at before
        obtain ⟨q, present, shared⟩ := before
        have inside := (List.getElem?_eq_some_iff.mp present).1
        exact ⟨q, (List.getElem?_append_left inside).trans present, shared⟩

theorem Faithful.run (faithful : d.Faithful) (nodes : List Node) :
    ∃ e, nodes.foldlM Indexed.add d = .ok e ∧ e.Faithful ∧ e.declared = nodes.foldl Declared.add d.declared := by
  induction nodes generalizing d with
  | nil => exact ⟨d, rfl, faithful, rfl⟩
  | cons n rest ih =>
    obtain ⟨next, added, kept, same⟩ := faithful.add n
    obtain ⟨last, run, valid, declared⟩ := ih kept
    refine ⟨last, ?_, valid, ?_⟩
    · rw [List.foldlM_cons, added]
      exact run
    · rw [declared, same]
      rfl

theorem exists_ofNodes (nodes : List Node) : ∃ index, ofNodes nodes = .ok ⟨Declared.ofNodes nodes, index⟩ := by
  have start : Faithful {} := fun _ => rfl
  obtain ⟨e, run, -, declared⟩ := start.run nodes
  refine ⟨e.index, ?_⟩
  rw [ofNodes, run, Declared.ofNodes, ← declared]

end Indexed

/-- Going through some nodes with an index never reads beside the declarations. There is one query for every
signature, in the order in which they come up, declared by the first node that has it; and one conflict, in
the order of the nodes, for every node that is not the first of its signature and leaves out something else
than the first. Further nodes leave both as they are and add behind them. -/
theorem declared_by_first (nodes : List Node) :
    (∃ index, Indexed.ofNodes nodes = .ok ⟨ofNodes nodes, index⟩) ∧
    (ofNodes nodes).queries.map QueryDecl.name = (nodes.map Node.signature).eraseDups ∧
    (ofNodes nodes).queries = (List.range nodes.length).filterMap (declaredAt nodes) ∧
    (ofNodes nodes).conflicts = (List.range nodes.length).filterMap (conflictAt nodes) ∧
    ∀ later, (ofNodes nodes).queries <+: (ofNodes (nodes ++ later)).queries ∧
      (ofNodes nodes).conflicts <+: (ofNodes (nodes ++ later)).conflicts := by
  obtain ⟨queries, conflicts⟩ := ofNodes_eq nodes
  refine ⟨Indexed.exists_ofNodes nodes, ?_, queries, conflicts, fun later => ?_⟩
  · rw [names_ofNodes, OrderedSet.items_addAll]
  · have continued : ofNodes (nodes ++ later) = later.foldl add (ofNodes nodes) := List.foldl_append
    rw [continued]
    exact prefix_foldl_add later (ofNodes nodes)

/-- The third node shares the query of the first and is in conflict with it; the fourth leaves out the same. -/
example :
    let nodes : List Node := [
      { key := ⟨0, 0⟩, params := some [⟨"Pos", "p"⟩], exclusions := some ["Idle"], signature := "query_Pos" },
      { key := ⟨0, 1⟩, params := some [⟨"Vel", "v"⟩], signature := "query_Vel" },
      { key := ⟨0, 2⟩, params := some [⟨"Pos", "p"⟩], signature := "query_Pos" },
      { key := ⟨0, 3⟩, params := some [⟨"Vel", "v"⟩], exclusions := some [], signature := "query_Vel" }]
    ofNodes nodes =
      ⟨[⟨"query_Pos", ["Pos"], ["Idle"]⟩, ⟨"query_Vel", ["Vel"], []⟩],
        [⟨"query_Pos", ⟨0, 2⟩, ["Idle"], []⟩]⟩ := by
  decide +kernel

end SystemLoops.Declared
