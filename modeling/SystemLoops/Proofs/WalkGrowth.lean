import SystemLoops.Proofs.ArenaInvariant
import SystemLoops.Proofs.Growth

/-!
The walk follows the growth of a body. A node is registered with an empty body and filled after its
statements were walked; since no two nodes share a key, what comes out is the arena extended by the
grown nodes, each with its own body. A walk fails only when it runs out of numbers.
-/

namespace SystemLoops

open Walker (nodeOf nodeOf_key nodeOf_body nodeOf_types nodeOf_signature remarks truncation
  paramFinding? truncatedComment)

namespace OrderedSet

variable {α : Type u} [BEq α]

theorem addAll_append (s : OrderedSet α) (first second : List α) :
    s.addAll (first ++ second) = (s.addAll first).addAll second :=
  List.foldl_append

end OrderedSet

namespace Walker

def extend (w : Walker) (nodes : List Node) (findings : List Diagnostic) : Walker :=
  { arena :=
      { w.arena with
        slots := w.arena.slots ++ nodes, order := w.arena.order ++ nodes.map Node.key }
    nextId := w.nextId + .ofNat nodes.length
    storage := w.storage.addAll (nodes.flatMap Node.types)
    signatures := w.signatures.addAll (nodes.map Node.signature)
    diagnostics := w.diagnostics ++ findings }

variable {o : WalkOptions} {receiver : Text} {depth : UInt64} {w : Walker} {st : Stmt}

theorem extend_nil (w : Walker) : w.extend [] [] = w := by
  simp [extend, OrderedSet.addAll]

theorem extend_extend (w : Walker) (first second : List Node) (earlier later : List Diagnostic) :
    (w.extend first earlier).extend second later = w.extend (first ++ second) (earlier ++ later) := by
  simp [extend, OrderedSet.addAll_append, UInt64.add_assoc]

@[simp] theorem keys_extend (w : Walker) (nodes : List Node) (findings : List Diagnostic) :
    (w.extend nodes findings).arena.keys = w.arena.keys ++ nodes.map Node.key := by
  simp [extend, Arena.keys]

/-! ### One statement -/

theorem note_eq (w : Walker) (d : Diagnostic) : w.note d = w.extend [] [d] := by
  simp [note, extend, OrderedSet.addAll]

theorem notePlain_eq (w : Walker) (o : WalkOptions) (source : Text) (position : Position)
    (d : Option Diagnostic) :
    w.notePlain o source position d = w.extend [] (notePlain {} o source position d).diagnostics := by
  unfold notePlain
  split
  · simp [note_eq, extend]
  · split
    · simp [note_eq, extend]
    · simp [extend_nil]

theorem keep_eq (w : Walker) (o : WalkOptions) (depth : UInt64) (c : Classified) :
    w.keep o depth c = w.extend [] (remarks o depth c) := by
  cases c with
  | plain source position d =>
    simp only [remarks, keep]
    split
    · rw [notePlain_eq, notePlain_eq (note {} _), note_eq, note_eq, extend_extend]
      simp [extend]
    · exact notePlain_eq w o source position d
  | exclusion source position types d => exact notePlain_eq w o source position (some d)
  | iteration => exact (extend_nil w).symm

theorem stmt_kept (plain : (Classified.of o.names st).isIteration = false) :
    stmt o receiver depth w st =
      .ok (.text st.source, w.extend [] (remarks o depth (Classified.of o.names st))) := by
  rw [← keep_eq]
  cases st with
  | text | call => simp only [stmt]
  | callWith =>
    simp only [stmt]
    split
    · rename_i called
      simp [called, Classified.isIteration] at plain
    · rfl

theorem stmt_truncated
    (called : Classified.of o.names st = .iteration source position params exclusions enclosed found)
    (deep : maxDepth ≤ depth) :
    stmt o receiver depth w st =
      .ok (.text truncatedComment, w.extend [] [truncation o position]) := by
  obtain ⟨chain, given, rfl, rfl⟩ := Classified.of_eq_iteration called
  simp only [stmt, called, ge_iff_le, deep, if_true, note_eq, truncation]

theorem stmt_entered
    (called : Classified.of o.names st = .iteration source position params exclusions enclosed found)
    (shallow : depth < maxDepth) :
    stmt o receiver depth w st =
      (w.enter o receiver depth position params exclusions found).bind fun (key, w) =>
        (body o receiver (depth + 1) w enclosed).map fun (segments, w) =>
          (.hole key, { w with arena := w.arena.fill key segments }) := by
  obtain ⟨chain, given, rfl, rfl⟩ := Classified.of_eq_iteration called
  simp only [stmt, called, ge_iff_le, UInt64.not_le.mpr shallow, if_false]
  cases w.enter o receiver depth position (given.getD []) exclusions found with
  | error t => rfl
  | ok entered =>
    obtain ⟨key, w⟩ := entered
    simp only [Except.bind]
    cases body o receiver (depth + 1) w enclosed <;> rfl

theorem body_cons_ok (first : stmt o receiver depth w st = .ok (piece, between)) (rest : List Stmt) :
    body o receiver depth w (st :: rest) =
      (body o receiver depth between rest).map fun (segments, w) => (piece :: segments, w) := by
  simp only [body, first]
  cases body o receiver depth between rest <;> rfl

theorem rest_of_body_cons (first : stmt o receiver depth w st = .ok (piece, between))
    (walked : body o receiver depth w (st :: rest) = .ok result) :
    ∃ later, body o receiver depth between rest = .ok later := by
  rw [body_cons_ok first] at walked
  cases done : body o receiver depth between rest with
  | error t =>
    rw [done] at walked
    cases walked
  | ok later => exact ⟨later, rfl⟩

theorem body_cons_error (first : stmt o receiver depth w st = .error t) (rest : List Stmt) :
    body o receiver depth w (st :: rest) = .error t := by
  simp only [body, first]

/-! ### Entering an iteration -/

theorem requireInRange_depth (shallow : depth < maxDepth) :
    Fault.requireInRange depth.toNat 0 (maxDepth.toNat - 1 : Nat) "depth" = .ok () := by
  have bound : depth.toNat < 6 := shallow
  have high : depth.toNat ≤ maxDepth.toNat - 1 := Nat.le_sub_one_of_lt bound
  simp [Fault.requireInRange, Contract.check, high]

/-- The node as it is registered: its body comes later. -/
theorem enter_of_fresh (shallow : depth < maxDepth) (unclaimed : w.arena.claimed = [])
    (absent : ⟨depth, w.nextId⟩ ∉ w.arena.keys) :
    w.enter o receiver depth position params exclusions found =
      .ok (⟨depth, w.nextId⟩,
        w.extend [nodeOf o ⟨depth, w.nextId⟩ position params exclusions []]
          (params.filterMap (paramFinding? receiver position) ++ found)) := by
  let n := nodeOf o ⟨depth, w.nextId⟩ position params exclusions []
  have added : w.arena.register n =
      .ok { w.arena with slots := w.arena.slots ++ [n], order := w.arena.order ++ [n.key] } :=
    Arena.register_of_fresh absent (by simp [unclaimed])
  simp only [n, nodeOf] at added
  simp only [enter, requireInRange_depth shallow, added]
  simp [extend, nodeOf, OrderedSet.addAll]

theorem enter_of_taken (shallow : depth < maxDepth) (taken : ⟨depth, w.nextId⟩ ∈ w.arena.keys) :
    ∃ t, w.enter o receiver depth position params exclusions found = .error t := by
  have present : (w.arena.lookup? ⟨depth, w.nextId⟩).isSome = true :=
    Arena.lookup_isSome_iff.mpr taken
  simp only [enter, requireInRange_depth shallow, Arena.register, present, Bool.true_or, if_true]
  exact ⟨_, rfl⟩

theorem map_fill_of_not_mem {key : Key} {nodes : List Node} (apart : key ∉ nodes.map Node.key)
    (segments : Template) :
    nodes.map (fun n => if n.key == key then { n with body := segments } else n) = nodes := by
  refine (List.map_congr_left ?_).trans (List.map_id _)
  intro n member
  have other : n.key ≠ key := fun same => apart (List.mem_map.mpr ⟨n, member, same⟩)
  simp [other]

theorem fill_extended {key : Key} {below : List Node} (absent : key ∉ w.arena.keys)
    (apart : key ∉ below.map Node.key) (segments : Template) :
    let entered := (w.extend [nodeOf o key position params exclusions []] earlier).extend below later
    { entered with arena := entered.arena.fill key segments } =
      w.extend (nodeOf o key position params exclusions segments :: below) (earlier ++ later) := by
  intro entered
  have gathered : entered =
      w.extend (nodeOf o key position params exclusions [] :: below) (earlier ++ later) :=
    extend_extend w [_] below earlier later
  have filled : entered.arena.fill key segments =
      (w.extend (nodeOf o key position params exclusions segments :: below)
        (earlier ++ later)).arena := by
    rw [gathered]
    simp only [Arena.fill, extend, List.map_append, List.map_cons, map_fill_of_not_mem absent,
      map_fill_of_not_mem apart, nodeOf_key, beq_self_eq_true, if_true]
    rfl
  rw [filled, gathered]
  simp [extend]

theorem stmt_of_taken
    (called : Classified.of o.names st = .iteration source position params exclusions enclosed found)
    (shallow : depth < maxDepth) (taken : ⟨depth, w.nextId⟩ ∈ w.arena.keys) :
    ∃ t, stmt o receiver depth w st = .error t := by
  obtain ⟨t, refused⟩ : ∃ t, w.enter o receiver depth position params exclusions found = .error t :=
    enter_of_taken shallow taken
  refine ⟨t, ?_⟩
  rw [stmt_entered called shallow, refused]
  rfl

theorem stmt_of_failed_body
    (called : Classified.of o.names st = .iteration source position params exclusions enclosed found)
    (shallow : depth < maxDepth) (unclaimed : w.arena.claimed = [])
    (absent : ⟨depth, w.nextId⟩ ∉ w.arena.keys)
    (failed : body o receiver (depth + 1)
      (w.extend [nodeOf o ⟨depth, w.nextId⟩ position params exclusions []]
        (params.filterMap (paramFinding? receiver position) ++ found)) enclosed = .error t) :
    stmt o receiver depth w st = .error t := by
  rw [stmt_entered called shallow, enter_of_fresh shallow unclaimed absent]
  simp only [Except.bind, failed, Except.map]

theorem stmt_loop {below : List Node}
    (called : Classified.of o.names st = .iteration source position params exclusions enclosed found)
    (shallow : depth < maxDepth) (unclaimed : w.arena.claimed = [])
    (absent : ⟨depth, w.nextId⟩ ∉ w.arena.keys) (apart : ⟨depth, w.nextId⟩ ∉ below.map Node.key)
    (walked :
      let entered := w.extend [nodeOf o ⟨depth, w.nextId⟩ position params exclusions []]
        (params.filterMap (paramFinding? receiver position) ++ found)
      body o receiver (depth + 1) entered enclosed = .ok (segments, entered.extend below inward)) :
    stmt o receiver depth w st =
      .ok (.hole ⟨depth, w.nextId⟩,
        w.extend (nodeOf o ⟨depth, w.nextId⟩ position params exclusions segments :: below)
          (params.filterMap (paramFinding? receiver position) ++ found ++ inward)) := by
  rw [stmt_entered called shallow, enter_of_fresh shallow unclaimed absent]
  simp only [Except.bind, walked, Except.map, fill_extended absent apart]

end Walker

namespace Growth

variable {o : WalkOptions} {receiver : Text} {depth : UInt64} {first : Nat} {stmts : List Stmt}
  {segments : Template} {nodes : List Node} {findings : List Diagnostic} {w : Walker}

private theorem counter_extend (counter : w.nextId = .ofNat first) (nodes : List Node)
    (findings : List Diagnostic) :
    (w.extend nodes findings).nextId = .ofNat (first + nodes.length) := by
  simp [Walker.extend, counter]

/-- A walk that never meets a taken key gathers what the body grows into. -/
theorem walk (growth : Growth o receiver depth first stmts segments nodes findings)
    (counter : w.nextId = .ofNat first) (unclaimed : w.arena.claimed = [])
    (distinct : (w.arena.keys ++ nodes.map Node.key).Nodup) :
    Walker.body o receiver depth w stmts = .ok (segments, w.extend nodes findings) := by
  induction growth generalizing w with
  | nil => simp [Walker.body, Walker.extend_nil]
  | kept plain _ ih =>
    rw [Walker.body_cons_ok (Walker.stmt_kept plain),
      ih (counter_extend counter [] _) unclaimed (by simpa using distinct)]
    simp [Except.map, Walker.extend_extend]
  | truncated called deep _ ih =>
    rw [Walker.body_cons_ok (Walker.stmt_truncated called deep),
      ih (counter_extend counter [] _) unclaimed (by simpa using distinct)]
    simp [Except.map, Walker.extend_extend]
  | @loop st _ position params exclusions _ found depth first enclosed below inward _ _ nodes _ called
      shallow _ _ ihInside ihRest =>
    have apart := List.nodup_append.mp distinct
    have absent : ⟨depth, .ofNat first⟩ ∉ w.arena.keys :=
      fun taken => apart.2.2 _ taken _ (by simp) rfl
    have separate : ⟨depth, .ofNat first⟩ ∉ below.map Node.key := by
      have own := (List.nodup_cons.mp apart.2.1).1
      exact fun taken => own (by simp_all)
    have step := Walker.stmt_loop called shallow unclaimed (counter ▸ absent) (counter ▸ separate)
      (ihInside (counter_extend counter [_] _) unclaimed (by
        rw [Walker.keys_extend]
        refine distinct.sublist ?_
        simp [counter]))
    rw [counter] at step
    rw [Walker.body_cons_ok step, ihRest]
    · simp [Except.map, Walker.extend_extend]
    · rw [counter_extend counter, List.length_cons, Nat.add_assoc, Nat.add_comm 1]
    · exact unclaimed
    · simpa using distinct

/-- A walk that comes to an end has met no taken key. -/
theorem distinct_of_walk (growth : Growth o receiver depth first stmts segments nodes findings)
    (counter : w.nextId = .ofNat first) (unclaimed : w.arena.claimed = [])
    (before : w.arena.keys.Nodup) (walked : Walker.body o receiver depth w stmts = .ok result) :
    (w.arena.keys ++ nodes.map Node.key).Nodup := by
  induction growth generalizing w result with
  | nil => simpa using before
  | kept plain _ ih =>
    obtain ⟨_, rest⟩ := Walker.rest_of_body_cons (Walker.stmt_kept plain) walked
    simpa using ih (counter_extend counter [] _) unclaimed (by simpa using before) rest
  | truncated called deep _ ih =>
    obtain ⟨_, rest⟩ := Walker.rest_of_body_cons (Walker.stmt_truncated called deep) walked
    simpa using ih (counter_extend counter [] _) unclaimed (by simpa using before) rest
  | @loop st _ position params exclusions body found depth first enclosed below inward stmts _ nodes _
      called shallow inside _ ihInside ihRest =>
    by_cases taken : ⟨depth, w.nextId⟩ ∈ w.arena.keys
    · obtain ⟨t, failed⟩ : ∃ t, Walker.stmt o receiver depth w st = .error t :=
        Walker.stmt_of_taken called shallow taken
      rw [Walker.body_cons_error failed] at walked
      cases walked
    · let entered := w.extend [nodeOf o ⟨depth, w.nextId⟩ position params exclusions []]
        (params.filterMap (paramFinding? receiver position) ++ found)
      have numbered : entered.nextId = .ofNat (first + 1) := counter_extend counter [_] _
      have registered : entered.arena.keys = w.arena.keys ++ [⟨depth, w.nextId⟩] :=
        Walker.keys_extend w [_] _
      have fresh : entered.arena.keys.Nodup := by
        rw [registered, ← List.concat_eq_append]
        exact before.concat taken
      cases within : Walker.body o receiver (depth + 1) entered body with
      | error t =>
        have failed := Walker.stmt_of_failed_body called shallow unclaimed taken within
        rw [Walker.body_cons_error failed] at walked
        cases walked
      | ok reached =>
        have distinct := ihInside numbered unclaimed fresh within
        have apart : ⟨depth, w.nextId⟩ ∉ below.map Node.key := by
          rw [registered] at distinct
          intro again
          exact (List.nodup_append.mp distinct).2.2 _ (by simp) _ again rfl
        have step := Walker.stmt_loop called shallow unclaimed taken apart
          (inside.walk numbered unclaimed distinct)
        obtain ⟨_, rest⟩ := Walker.rest_of_body_cons step walked
        have last := ihRest (by rw [counter_extend counter, List.length_cons, Nat.add_right_comm,
          Nat.add_assoc]) (by exact unclaimed) (by simpa [registered] using distinct) rest
        simpa [counter] using last

/-- Following the holes of a body meets each of its nodes once. -/
theorem reach (growth : Growth o receiver depth first stmts segments nodes findings) {a : Arena}
    (found : ∀ n ∈ nodes, a.lookup? n.key = some n) (steps : Nat) (stack : List Key) :
    Walker.reach a (nodes.length + steps) (segments.holes ++ stack) =
      nodes.length + Walker.reach a steps stack := by
  induction growth generalizing steps stack with
  | nil => simp
  | kept _ _ ih | truncated _ _ _ ih => exact ih found steps stack
  | @loop _ _ _ _ _ _ _ _ _ _ below _ _ segments nodes _ _ _ _ _ ihInside ihRest =>
    have enough : (below ++ nodes).length + 1 + steps = below.length + (nodes.length + steps) + 1 := by
      simp; omega
    have here := found _ List.mem_cons_self
    rw [nodeOf_key] at here
    rw [List.length_cons, enough, Template.holes_hole, List.cons_append, Walker.reach, here]
    simp only [nodeOf_body]
    rw [ihInside (fun n member => found n (by simp [member])),
      ihRest (fun n member => found n (by simp [member]))]
    omega

theorem reachable (growth : Growth o receiver depth first stmts segments nodes findings)
    (distinct : (nodes.map Node.key).Nodup) :
    Walker.reachable (.ofNodes nodes) segments.holes = nodes.length := by
  have budget : segments.holes.length + total (nodes.map fun n => n.body.holes.length) =
      nodes.length := by
    have sizes := growth.owned.length_eq
    rw [List.length_append, List.length_flatMap, List.length_map] at sizes
    exact sizes.symm
  have met := growth.reach (fun n member => Arena.lookup_ofNodes distinct member) 0 []
  rw [List.append_nil] at met
  change Walker.reach _ (_ + total (nodes.map _)) _ = _
  rw [budget]
  simpa [Walker.reach] using met

end Growth

/-! ### A whole method -/

namespace Method

/-- The analysed form of a method whose body grew into these nodes. -/
def analysis (m : Method) (preamble : Template) (nodes : List Node) (findings : List Diagnostic) :
    Analysis :=
  { system := m.system, package := m.package, receiver := m.receiver
    imports := m.imports, position := m.position, preamble
    storageTypes := some (OrderedSet.addAll {} (nodes.flatMap Node.types)).items
    signatureNames := some (OrderedSet.addAll {} (nodes.map Node.signature)).items
    arena := some (.ofNodes nodes)
    topLevel := preamble.holes, diagnostics := findings }

theorem nodes_analysis {m : Method} {preamble : Template} {nodes : List Node}
    {findings : List Diagnostic} (distinct : (nodes.map Node.key).Nodup) :
    (m.analysis preamble nodes findings).nodes = nodes :=
  Arena.nodes_ofNodes distinct

/-- A method in which no key is given twice has an analysed form: what its body grows into. -/
theorem analyse_of_growth {m : Method} {o : WalkOptions} (named : o.names.each ≠ [])
    (growth : Growth o.complete m.receiver 0 0 m.body preamble nodes findings)
    (distinct : (nodes.map Node.key).Nodup) :
    analyse (some m) o = .ok (m.analysis preamble nodes findings) := by
  have walked := growth.walk (w := {}) rfl rfl (by simpa [Arena.keys] using distinct)
  have unnamed : o.names.each.isEmpty = false := by simpa using named
  have counted : Walker.reachable (Walker.extend {} nodes findings).arena preamble.holes =
      (Walker.extend {} nodes findings).arena.size := growth.reachable distinct
  simp only [analyse, unnamed, Bool.false_eq_true, if_false, Walker.outermost_eq, walked, Except.map,
    List.nil_append, counted, bne_self_eq_false]
  rfl

/-- Every analysed form is what the body of its method grows into. -/
theorem growth_of_analyse {m : Method} {o : WalkOptions} (analysed : analyse (some m) o = .ok a) :
    ∃ preamble nodes findings,
      Growth o.complete m.receiver 0 0 m.body preamble nodes findings ∧
        (nodes.map Node.key).Nodup ∧ a = m.analysis preamble nodes findings := by
  obtain ⟨preamble, nodes, findings, growth⟩ := Growth.exists_growth o.complete m.receiver 0 0 m.body
  have named : o.names.each ≠ [] := by
    intro unnamed
    simp [analyse, unnamed] at analysed
  have distinct : (nodes.map Node.key).Nodup := by
    cases walked : Walker.body o.complete m.receiver 0 {} m.body with
    | error t => simp [analyse, named, Walker.outermost_eq, walked, Except.map] at analysed
    | ok result => simpa [Arena.keys] using growth.distinct_of_walk (w := {}) rfl rfl .nil walked
  refine ⟨preamble, nodes, findings, growth, distinct, ?_⟩
  rw [analyse_of_growth named growth distinct] at analysed
  exact (Except.ok.inj analysed).symm

end Method

end SystemLoops
