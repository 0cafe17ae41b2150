import SystemLoops.Proofs.WalkGrowth

/-!
Methods without positions. Forgetting where the statements of a method stand commutes with everything
that the analysis does: positions are carried along, into nodes and findings, and never looked at. Main
statement: the analysis of a method without positions is the analysis of the method, without positions.
-/

namespace SystemLoops

namespace Stmt

mutual

/-- A statement that stands nowhere, with everything in it. -/
def unplaced : Stmt → Stmt
  | .text source _ => .text source {}
  | .call source _ chain => .call source {} chain
  | .callWith source _ chain params hasBody body =>
    .callWith source {} chain params hasBody (unplacedAll body)

/-- The statements of a body that stand nowhere. -/
def unplacedAll : List Stmt → List Stmt
  | [] => []
  | st :: rest => st.unplaced :: unplacedAll rest

end

end Stmt

/-- A method whose statements stand nowhere. -/
def Method.unplaced (m : Method) : Method :=
  { m with body := Stmt.unplacedAll m.body, position := {} }

def Diagnostic.unplaced (d : Diagnostic) : Diagnostic :=
  { d with position := {} }

def Node.unplaced (n : Node) : Node :=
  { n with position := {} }

@[simp] theorem Node.key_unplaced (n : Node) : n.unplaced.key = n.key := rfl

@[simp] theorem Node.body_unplaced (n : Node) : n.unplaced.body = n.body := rfl

def Arena.unplaced (a : Arena) : Arena :=
  { a with slots := a.slots.map Node.unplaced }

def Analysis.unplaced (a : Analysis) : Analysis :=
  { a with
    position := {}
    arena := a.arena.map Arena.unplaced
    diagnostics := a.diagnostics.map Diagnostic.unplaced }

def Classified.unplaced : Classified → Classified
  | .plain source _ d => .plain source {} (d.map Diagnostic.unplaced)
  | .exclusion source _ types d => .exclusion source {} types d.unplaced
  | .iteration source _ params exclusions body found =>
    .iteration source {} params exclusions (Stmt.unplacedAll body) (found.map Diagnostic.unplaced)

def Walker.unplaced (w : Walker) : Walker :=
  { w with arena := w.arena.unplaced, diagnostics := w.diagnostics.map Diagnostic.unplaced }

/-! ### What a statement is -/

namespace Stmt

@[simp] theorem source_unplaced (st : Stmt) : st.unplaced.source = st.source := by
  cases st <;> rfl

@[simp] theorem position_unplaced (st : Stmt) : st.unplaced.position = {} := by
  cases st <;> rfl

@[simp] theorem chain_unplaced (st : Stmt) : st.unplaced.chain = st.chain := by
  cases st <;> rfl

theorem lambda_unplaced (st : Stmt) : st.unplaced.lambda? =
    st.lambda?.map fun l => { l with body := unplacedAll l.body } := by
  cases st <;> rfl

end Stmt

namespace Classified

theorem misspeltExclusions_unplaced (names : Combinators) (position : Position) (chain : List Member) :
    misspeltExclusions names {} chain =
      (misspeltExclusions names position chain).map Diagnostic.unplaced := by
  unfold misspeltExclusions
  rw [List.map_filterMap]
  apply List.filterMap_congr
  intro m _
  split
  · rfl
  · rw [Option.map_map]
    rfl

theorem ofEach_unplaced (names : Combinators) (st : Stmt) :
    ofEach names st.unplaced = (ofEach names st).unplaced := by
  unfold ofEach
  rw [st.lambda_unplaced]
  cases st.lambda? with
  | none => simp [unplaced, Diagnostic.unplaced, Diagnostic.warn]
  | some l =>
    cases hasBody : l.hasBody with
    | false => simp [hasBody, unplaced, Diagnostic.unplaced, Diagnostic.warn]
    | true =>
      simp [hasBody, unplaced, misspeltExclusions_unplaced names st.position]

/-- What a statement is does not depend on where it stands. -/
theorem of_unplaced (names : Combinators) (st : Stmt) :
    of names st.unplaced = (of names st).unplaced := by
  have outermost : st.unplaced.outermost? = st.outermost? := by simp [Stmt.outermost?]
  have given : st.unplaced.lambda?.isSome = st.lambda?.isSome := by simp [st.lambda_unplaced]
  unfold of
  rw [outermost, given, ofEach_unplaced]
  split
  · simp [unplaced]
  · split
    · rfl
    · split
      · simp [unplaced, Diagnostic.unplaced, Diagnostic.remark]
      · split
        · simp [unplaced, Diagnostic.unplaced, Diagnostic.warn, Function.comp_def]
        · simp [unplaced]

@[simp] theorem isIteration_unplaced (c : Classified) : c.unplaced.isIteration = c.isIteration := by
  cases c <;> rfl

end Classified

/-! ### Arenas -/

namespace Arena

theorem lookup_unplaced (a : Arena) (key : Key) :
    a.unplaced.lookup? key = (a.lookup? key).map Node.unplaced := by
  simp only [lookup?, unplaced, List.find?_map]
  rfl

theorem register_unplaced (a : Arena) (n : Node) :
    a.unplaced.register n.unplaced = (a.register n).map unplaced := by
  have known : (a.unplaced.lookup? n.unplaced.key).isSome = (a.lookup? n.key).isSome := by
    rw [lookup_unplaced, Option.isSome_map, Node.key_unplaced]
  have handed : a.unplaced.claimed = a.claimed := rfl
  unfold register
  rw [known, handed, Node.key_unplaced]
  split
  · rfl
  · simp [Except.map, unplaced]

theorem claim_unplaced (a : Arena) (key : Key) :
    a.unplaced.claim key = (a.claim key).map (Prod.map Node.unplaced unplaced) := by
  have handed : a.unplaced.claimed = a.claimed := rfl
  unfold claim
  rw [lookup_unplaced, handed]
  split
  · rfl
  · cases a.lookup? key with
    | none => rfl
    | some n =>
      simp [Except.map, unplaced, List.filter_map, Function.comp_def, Node.unplaced]

theorem fill_unplaced (a : Arena) (key : Key) (body : Template) :
    a.unplaced.fill key body = (a.fill key body).unplaced := by
  simp only [fill, unplaced, List.map_map]
  congr 1
  apply List.map_congr_left
  intro n _
  by_cases here : n.key = key
  · simp [here, Node.unplaced]
  · simp [here, Node.unplaced]

theorem nodes_unplaced (a : Arena) : a.unplaced.nodes = a.nodes.map Node.unplaced := by
  simp only [nodes, List.map_filterMap]
  exact List.filterMap_congr fun key _ => a.lookup_unplaced key

theorem clone_unplaced (a : Arena) : a.unplaced.clone = a.clone.unplaced := by
  simp only [clone, nodes_unplaced]
  simp [unplaced, Function.comp_def]

@[simp] theorem size_unplaced (a : Arena) : a.unplaced.size = a.size := by
  simp [size, unplaced]

end Arena

/-! ### Walking -/

namespace Walker

variable {o : WalkOptions} {receiver : Text} {depth : UInt64} {st : Stmt}

theorem paramFinding_unplaced (receiver : Text) (position : Position) (params : List Param) :
    params.filterMap (paramFinding? receiver {}) =
      (params.filterMap (paramFinding? receiver position)).map Diagnostic.unplaced := by
  rw [List.map_filterMap]
  apply List.filterMap_congr
  intro p _
  unfold paramFinding?
  split
  · rfl
  · split <;> rfl

theorem notePlain_unplaced (w : Walker) (o : WalkOptions) (source : Text) (position : Position)
    (d : Option Diagnostic) :
    w.unplaced.notePlain o source {} (d.map Diagnostic.unplaced) =
      (w.notePlain o source position d).unplaced := by
  cases d with
  | some d => simp [notePlain, note, unplaced]
  | none =>
    simp only [notePlain, Option.map_none]
    split
    · simp [note, unplaced, Diagnostic.unplaced, Diagnostic.remark]
    · rfl

theorem keep_unplaced (w : Walker) (o : WalkOptions) (depth : UInt64) (c : Classified) :
    w.unplaced.keep o depth c.unplaced = (w.keep o depth c).unplaced := by
  cases c with
  | plain source position d =>
    simp only [keep, Classified.unplaced]
    rw [← notePlain_unplaced]
    congr 1
    split
    · simp [note, unplaced, Diagnostic.unplaced, Diagnostic.warn]
    · rfl
  | exclusion source position types d => exact notePlain_unplaced w o source position (some d)
  | iteration => rfl

theorem enter_unplaced (w : Walker) (o : WalkOptions) (receiver : Text) (depth : UInt64)
    (position : Position) (params : List Param) (exclusions : List Text) (found : List Diagnostic) :
    w.unplaced.enter o receiver depth {} params exclusions (found.map Diagnostic.unplaced) =
      (w.enter o receiver depth position params exclusions found).map (Prod.map id unplaced) := by
  have added := w.arena.register_unplaced
    (nodeOf o ⟨depth, w.nextId⟩ position params exclusions [])
  unfold enter
  split
  · rfl
  · simp only [nodeOf, Node.unplaced] at added
    simp only [unplaced] at added ⊢
    rw [added]
    cases w.arena.register _ with
    | error f => rfl
    | ok arena =>
      simp [Except.map, paramFinding_unplaced receiver position, Node.types, Node.bindings, unplaced]

/-- One statement is walked alike wherever it stands, as long as this holds of its own body. -/
theorem stmt_unplaced (w : Walker) (st : Stmt)
    (inside : ∀ source position params exclusions enclosed found,
      Classified.of o.names st = .iteration source position params exclusions enclosed found →
        ∀ w, body o receiver (depth + 1) (unplaced w) (Stmt.unplacedAll enclosed) =
          (body o receiver (depth + 1) w enclosed).map (Prod.map id unplaced)) :
    stmt o receiver depth w.unplaced st.unplaced =
      (stmt o receiver depth w st).map (Prod.map id unplaced) := by
  have same := Classified.of_unplaced o.names st
  cases plain : (Classified.of o.names st).isIteration with
  | false =>
    rw [stmt_kept plain, stmt_kept (by rw [same, Classified.isIteration_unplaced, plain]), ← keep_eq,
      ← keep_eq, same, keep_unplaced, Stmt.source_unplaced]
    rfl
  | true =>
    cases called : Classified.of o.names st with
    | plain | exclusion => simp [called, Classified.isIteration] at plain
    | iteration source position params exclusions enclosed found =>
      rw [called] at same
      by_cases deep : maxDepth ≤ depth
      · rw [stmt_truncated called deep, stmt_truncated same deep, ← note_eq, ← note_eq]
        simp [Except.map, note, unplaced, truncation, Diagnostic.unplaced, Diagnostic.warn]
      · have shallow := UInt64.not_le.mp deep
        rw [stmt_entered called shallow, stmt_entered same shallow, enter_unplaced]
        cases w.enter o receiver depth position params exclusions found with
        | error t => rfl
        | ok entered =>
          obtain ⟨key, w⟩ := entered
          simp only [Except.map, Except.bind, Prod.map, id_eq]
          rw [inside source position params exclusions enclosed found called]
          cases body o receiver (depth + 1) w enclosed with
          | error t => rfl
          | ok walked => simp [Except.map, unplaced, Arena.fill_unplaced]

/-- A body is walked alike wherever its statements stand. -/
theorem body_unplaced (o : WalkOptions) (receiver : Text) (depth : UInt64) (w : Walker)
    (stmts : List Stmt) :
    body o receiver depth w.unplaced (Stmt.unplacedAll stmts) =
      (body o receiver depth w stmts).map (Prod.map id unplaced) := by
  match stmts with
  | [] => rfl
  | st :: rest =>
    -- the enclosed body is a part of the statement, so the induction is on the size of the body
    have first : stmt o receiver depth w.unplaced st.unplaced =
        (stmt o receiver depth w st).map (Prod.map id unplaced) := by
      refine stmt_unplaced w st fun source position params exclusions enclosed found called w => ?_
      exact body_unplaced o receiver (depth + 1) w enclosed
    rw [Stmt.unplacedAll]
    cases walked : stmt o receiver depth w st with
    | error t =>
      rw [walked] at first
      rw [body_cons_error walked, body_cons_error first]
      rfl
    | ok reached =>
      obtain ⟨piece, between⟩ := reached
      rw [walked] at first
      rw [body_cons_ok walked, body_cons_ok first, body_unplaced o receiver depth between rest]
      cases body o receiver depth between rest <;> rfl
termination_by sizeOf stmts
decreasing_by
  · obtain ⟨_, _, rfl, _⟩ := Classified.of_eq_iteration called
    rw [List.cons.sizeOf_spec, Stmt.callWith.sizeOf_spec]
    omega
  · rw [List.cons.sizeOf_spec]
    omega

theorem reach_unplaced (a : Arena) (steps : Nat) (stack : List Key) :
    reach a.unplaced steps stack = reach a steps stack := by
  induction steps generalizing stack with
  | zero => rfl
  | succ steps ih =>
    cases stack with
    | nil => rfl
    | cons key rest =>
      simp only [reach, Arena.lookup_unplaced]
      cases a.lookup? key with
      | none => exact ih rest
      | some n => exact congrArg (· + 1) (ih (n.body.holes ++ rest))

theorem reachable_unplaced (a : Arena) (topLevel : List Key) :
    reachable a.unplaced topLevel = reachable a topLevel := by
  unfold reachable
  rw [reach_unplaced]
  simp [Arena.unplaced, Function.comp_def, Node.unplaced]

end Walker

/-- Analysing a method without positions gives its analysis, without positions. -/
theorem Method.analyse_unplaced (m : Method) (o : WalkOptions) :
    analyse (some m.unplaced) o = (analyse (some m) o).map Analysis.unplaced := by
  have walked : Walker.body o.complete m.receiver 0 {} (Stmt.unplacedAll m.body) =
      (Walker.body o.complete m.receiver 0 {} m.body).map (Prod.map id Walker.unplaced) :=
    Walker.body_unplaced o.complete m.receiver 0 {} m.body
  simp only [analyse, Method.unplaced, Walker.outermost_eq]
  split
  · rfl
  · rw [walked]
    cases Walker.body o.complete m.receiver 0 {} m.body with
    | error t => rfl
    | ok result =>
      obtain ⟨preamble, w⟩ := result
      simp only [Except.map, Prod.map, id_eq, List.nil_append, Walker.unplaced,
        Walker.reachable_unplaced, Arena.size_unplaced]
      split <;> rfl

theorem Method.position_of_analyse {m : Method} {o : WalkOptions} {a : Analysis}
    (analysed : analyse (some m) o = .ok a) : a.position = m.position := by
  obtain ⟨preamble, nodes, findings, -, -, rfl⟩ := growth_of_analyse analysed
  rfl

end SystemLoops
