import Mathlib.Data.List.Nodup
import Mathlib.Data.List.Perm.Basic
import SystemLoops.Walk

/-!
What a body grows into, without an arena or a counter that is threaded through: a finite derivation
that gives the template of the body and the nodes below it, numbered in the order in which their calls
stand in the source. Every node is the target of exactly one hole, one level deeper than the node that
holds it.
-/

namespace SystemLoops

namespace Classified

/-- Whether a statement becomes a loop. -/
def isIteration : Classified → Bool
  | .iteration .. => true
  | _ => false

/-- Only a chain with a function literal that has a body becomes a loop. -/
theorem of_eq_iteration {names : Combinators} {st : Stmt}
    (called : of names st = .iteration source position params excluded body findings) :
    ∃ chain given, st = .callWith source position chain given true body ∧ params = given.getD [] := by
  unfold of at called
  split at called
  · cases called
  · split at called
    · unfold ofEach at called
      split at called
      · cases called
      · rename_i l literal
        split at called
        · cases called
        · rename_i hasBody
          cases st with
          | text | call => simp [Stmt.lambda?] at literal
          | callWith _ _ chain given =>
            simp only [Stmt.lambda?, Option.some.injEq] at literal
            subst l
            cases called
            exact ⟨chain, given, by simp_all [Stmt.source, Stmt.position], rfl⟩
    · split at called
      · cases called
      · split at called <;> cases called

end Classified

namespace Walker

def nodeOf (o : WalkOptions) (key : Key) (position : Position) (params : List Param)
    (exclusions : List Text) (body : Template) : Node :=
  { key, params := absentIfEmpty (boundParams params), exclusions := absentIfEmpty exclusions
    body, position, signature := Signature.name o.queryLead ((boundParams params).map Param.type) }

/-- What a statement that is no iteration gives rise to at a depth. -/
def remarks (o : WalkOptions) (depth : UInt64) (c : Classified) : List Diagnostic :=
  (keep {} o depth c).diagnostics

/-- The warning about an iteration nested too deep. -/
def truncation (o : WalkOptions) (position : Position) : Diagnostic :=
  .warn position (o.names.each ++ " nested deeper than " ++ Text.ofNat maxDepth.toNat
    ++ " levels is not expanded")

theorem boundParams_eq (params : List Param) :
    boundParams params = params.filter fun p => p.type ≠ [] := by
  apply List.filter_congr
  intro p _
  rw [Bool.eq_iff_iff]
  simp

@[simp] theorem absentIfEmpty_getD (xs : List α) : (absentIfEmpty xs).getD [] = xs := by
  unfold absentIfEmpty
  split
  · rename_i none
    exact (List.isEmpty_iff.mp none).symm
  · rfl

section

variable (o : WalkOptions) (key : Key) (position : Position) (params : List Param)
  (exclusions : List Text) (body : Template)

@[simp] theorem nodeOf_key : (nodeOf o key position params exclusions body).key = key := rfl

@[simp] theorem nodeOf_body : (nodeOf o key position params exclusions body).body = body := rfl

@[simp] theorem nodeOf_position :
    (nodeOf o key position params exclusions body).position = position := rfl

@[simp] theorem nodeOf_signature : (nodeOf o key position params exclusions body).signature =
    Signature.name o.queryLead ((boundParams params).map Param.type) := rfl

@[simp] theorem nodeOf_bindings :
    (nodeOf o key position params exclusions body).bindings = boundParams params := by
  simp [nodeOf, Node.bindings]

@[simp] theorem nodeOf_types :
    (nodeOf o key position params exclusions body).types = (boundParams params).map Param.type := by
  rw [Node.types, nodeOf_bindings]

@[simp] theorem nodeOf_excluded :
    (nodeOf o key position params exclusions body).excluded = exclusions := by
  simp [nodeOf, Node.excluded]

end

end Walker

open Walker (nodeOf nodeOf_key nodeOf_body remarks truncation paramFinding? truncatedComment)

/-- The statements of a body at a depth grow into a template, the nodes below it, and findings. The
nodes take their numbers from `first` on, each before the nodes of its own body. -/
inductive Growth (o : WalkOptions) (receiver : Text) :
    UInt64 → Nat → List Stmt → Template → List Node → List Diagnostic → Prop where
  | nil : Growth o receiver depth first [] [] [] []
  | kept (plain : (Classified.of o.names st).isIteration = false)
      (rest : Growth o receiver depth first stmts segments nodes findings) :
      Growth o receiver depth first (st :: stmts) (.text st.source :: segments) nodes
        (remarks o depth (Classified.of o.names st) ++ findings)
  | truncated
      (called : Classified.of o.names st = .iteration source position params exclusions body found)
      (deep : maxDepth ≤ depth)
      (rest : Growth o receiver depth first stmts segments nodes findings) :
      Growth o receiver depth first (st :: stmts) (.text truncatedComment :: segments) nodes
        (truncation o position :: findings)
  | loop
      (called : Classified.of o.names st = .iteration source position params exclusions body found)
      (shallow : depth < maxDepth)
      (inside : Growth o receiver (depth + 1) (first + 1) body enclosed below inward)
      (rest : Growth o receiver depth (first + 1 + below.length) stmts segments nodes findings) :
      Growth o receiver depth first (st :: stmts) (.hole ⟨depth, .ofNat first⟩ :: segments)
        (nodeOf o ⟨depth, .ofNat first⟩ position params exclusions enclosed :: (below ++ nodes))
        (params.filterMap (paramFinding? receiver position) ++ found ++ inward ++ findings)

/-- A node around a body that grew one level deeper, numbered before the nodes of the body, all of them
below a limit. -/
inductive Grown (o : WalkOptions) (receiver : Text) (limit : Nat) : Node → Prop where
  | node (shallow : level < maxDepth) (before : number + below.length < limit)
      (inside : Growth o receiver (level + 1) (number + 1) body enclosed below inward) :
      Grown o receiver limit
        (nodeOf o ⟨level, .ofNat number⟩ position params exclusions enclosed)

theorem Grown.mono {limit greater : Nat} (grown : Grown o receiver limit n)
    (within : limit ≤ greater) : Grown o receiver greater n := by
  cases grown with
  | node shallow before inside => exact .node shallow (Nat.lt_of_lt_of_le before within) inside

namespace Growth

variable {o : WalkOptions} {receiver : Text} {depth : UInt64} {first : Nat} {stmts : List Stmt}
  {segments : Template} {nodes : List Node} {findings : List Diagnostic} {n : Node} {key : Key}

/-- Every body grows into something. -/
theorem exists_growth (o : WalkOptions) (receiver : Text) (depth : UInt64) (first : Nat)
    (stmts : List Stmt) :
    ∃ segments nodes findings, Growth o receiver depth first stmts segments nodes findings := by
  match stmts with
  | [] => exact ⟨_, _, _, .nil⟩
  | st :: rest =>
    cases plain : (Classified.of o.names st).isIteration with
    | false =>
      obtain ⟨_, _, _, later⟩ := exists_growth o receiver depth first rest
      exact ⟨_, _, _, .kept plain later⟩
    | true =>
      cases called : Classified.of o.names st with
      | plain | exclusion => simp [called, Classified.isIteration] at plain
      | iteration source position params exclusions body found =>
        by_cases deep : maxDepth ≤ depth
        · obtain ⟨_, _, _, later⟩ := exists_growth o receiver depth first rest
          exact ⟨_, _, _, .truncated called deep later⟩
        · obtain ⟨_, below, _, inside⟩ := exists_growth o receiver (depth + 1) (first + 1) body
          obtain ⟨_, _, _, later⟩ := exists_growth o receiver depth (first + 1 + below.length) rest
          exact ⟨_, _, _, .loop called (UInt64.not_le.mp deep) inside later⟩
termination_by sizeOf stmts
decreasing_by
  · rw [List.cons.sizeOf_spec]
    omega
  · rw [List.cons.sizeOf_spec]
    omega
  · obtain ⟨_, _, rfl, _⟩ := Classified.of_eq_iteration called
    rw [List.cons.sizeOf_spec, Stmt.callWith.sizeOf_spec]
    omega
  · rw [List.cons.sizeOf_spec]
    omega

/-! ### Numbers, levels and owners -/

theorem numbered (growth : Growth o receiver depth first stmts segments nodes findings) :
    nodes.map (fun n => n.key.id) = (List.range' first nodes.length).map .ofNat := by
  induction growth with
  | nil => rfl
  | kept _ _ ih | truncated _ _ _ ih => exact ih
  | @loop _ _ _ _ _ _ _ _ first _ below _ _ _ nodes _ _ _ _ _ ihInside ihRest =>
    have split : List.range' first (below.length + nodes.length + 1) =
        first :: (List.range' (first + 1) below.length ++
          List.range' (first + 1 + below.length) nodes.length) := by
      rw [List.range'_succ, List.range'_append_1]
    simp only [List.map_cons, List.map_append, List.length_cons, List.length_append, ihInside,
      ihRest, split, nodeOf_key]

theorem level (growth : Growth o receiver depth first stmts segments nodes findings) :
    ∀ key ∈ segments.holes, key.depth = depth := by
  induction growth with
  | nil => simp
  | kept _ _ ih | truncated _ _ _ ih => exact ih
  | loop _ _ _ _ _ ihRest =>
    intro key member
    rcases List.mem_cons.mp member with rfl | later
    · rfl
    · exact ihRest key later

theorem grown (growth : Growth o receiver depth first stmts segments nodes findings) :
    ∀ n ∈ nodes, Grown o receiver (first + nodes.length) n := by
  induction growth with
  | nil => simp
  | kept _ _ ih | truncated _ _ _ ih => exact ih
  | loop _ shallow inside _ ihInside ihRest =>
    intro n member
    simp only [List.length_cons, List.length_append]
    rcases List.mem_cons.mp member with rfl | other
    · exact .node shallow (by omega) inside
    · rcases List.mem_append.mp other with within | later
      · exact (ihInside n within).mono (by omega)
      · exact (ihRest n later).mono (by omega)

theorem shallow (growth : Growth o receiver depth first stmts segments nodes findings)
    (member : n ∈ nodes) : n.key.depth < maxDepth := by
  cases growth.grown n member with
  | node shallow _ _ => exact shallow

/-- A node holds nodes one level deeper. -/
theorem deeper (growth : Growth o receiver depth first stmts segments nodes findings)
    (member : n ∈ nodes) (held : key ∈ n.body.holes) : key.depth = n.key.depth + 1 := by
  cases growth.grown n member with
  | node _ _ inside => exact inside.level key held

theorem signed (growth : Growth o receiver depth first stmts segments nodes findings)
    (member : n ∈ nodes) : n.signature = Signature.name o.queryLead n.types := by
  cases growth.grown n member with
  | node _ _ _ => simp

/-- Holes and nodes match one to one: what the body and the nodes hold is what there is. -/
theorem owned (growth : Growth o receiver depth first stmts segments nodes findings) :
    (nodes.map Node.key).Perm (segments.holes ++ nodes.flatMap fun n => n.body.holes) := by
  induction growth with
  | nil => exact .refl _
  | kept _ _ ih | truncated _ _ _ ih => exact ih
  | @loop _ _ _ _ _ _ _ _ _ _ _ _ _ segments _ _ _ _ _ _ ihInside ihRest =>
    simp only [List.map_cons, List.map_append, nodeOf_key, nodeOf_body, Template.holes_hole,
      List.flatMap_cons, List.flatMap_append, List.cons_append]
    refine List.Perm.cons _ ((ihInside.append ihRest).trans ?_)
    -- The holes of this body move in front of those of the node and of the nodes below it.
    simp only [← List.append_assoc]
    refine List.Perm.append_right _ ?_
    rw [List.append_assoc segments.holes]
    exact List.perm_append_comm

theorem hole_mem (growth : Growth o receiver depth first stmts segments nodes findings)
    (member : key ∈ segments.holes) : key ∈ nodes.map Node.key :=
  growth.owned.mem_iff.mpr (List.mem_append_left _ member)

theorem number_of_mem (growth : Growth o receiver depth first stmts segments nodes findings)
    (member : key ∈ nodes.map Node.key) :
    ∃ i, key.id = .ofNat i ∧ first ≤ i ∧ i < first + nodes.length := by
  have listed : key.id ∈ nodes.map fun n => n.key.id := by
    obtain ⟨n, present, rfl⟩ := List.mem_map.mp member
    exact List.mem_map.mpr ⟨n, present, rfl⟩
  rw [growth.numbered] at listed
  obtain ⟨i, within, same⟩ := List.mem_map.mp listed
  exact ⟨i, same.symm, List.mem_range'_1.mp within⟩

/-- A node comes before the nodes that it holds. -/
theorem earlier (growth : Growth o receiver depth first stmts segments nodes findings)
    (member : n ∈ nodes) (held : key ∈ n.body.holes) :
    ∃ i j, n.key.id = .ofNat i ∧ key.id = .ofNat j ∧ i < j ∧ j < first + nodes.length := by
  cases growth.grown n member with
  | node _ before inside =>
    obtain ⟨j, same, after, within⟩ := inside.number_of_mem (inside.hole_mem held)
    exact ⟨_, j, rfl, same, by omega, by omega⟩

/-- As long as the numbers fit into a machine word, no key is given twice. -/
theorem keys_nodup (growth : Growth o receiver depth first stmts segments nodes findings)
    (room : first + nodes.length ≤ UInt64.size) : (nodes.map Node.key).Nodup := by
  apply List.Nodup.of_map Key.id
  rw [List.map_map]
  change (nodes.map fun n => n.key.id).Nodup
  rw [growth.numbered]
  refine List.Nodup.map_on ?_ List.nodup_range'
  intro i inside j within same
  have low := (List.mem_range'_1.mp inside).2
  have high := (List.mem_range'_1.mp within).2
  have words := congrArg UInt64.toNat same
  rw [UInt64.toNat_ofNat_of_lt' (Nat.lt_of_lt_of_le low room),
    UInt64.toNat_ofNat_of_lt' (Nat.lt_of_lt_of_le high room)] at words
  exact words

end Growth

end SystemLoops
