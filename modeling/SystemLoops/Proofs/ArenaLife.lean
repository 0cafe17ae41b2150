import SystemLoops.Proofs.ArenaInvariant

/-!
The lives of arenas. Requests go to any of several arenas, and a clone is one more arena with a life of
its own. What happened in a life is recorded from the answers alone: the nodes that the arena was made
with or that it took in, and those that it handed out. Main statement: after every sequence of
requests, an arena holds exactly what is recorded, and what it refuses is what the record tells it to.
-/

namespace SystemLoops.Arena

/-- What an arena is asked for. -/
inductive Request where
  | register (n : Node)
  | claim (key : Key)
  | lookup (key : Key)
  | clone

/-- What an arena answers. -/
inductive Answer where
  | registered
  | handedOut (n : Node)
  | shown (n : Option Node)
  | cloned
  | refused (f : Failure)

/-- An arena with a record of its life. A node that it was made with counts as registered. -/
structure Life where
  arena : Arena := .empty
  registered : List Node := []
  handedOut : List Node := []

namespace Life

/-- Ask an arena for something. Only what succeeds changes it, and the record with it. -/
def ask (l : Life) : Request → Answer × Life
  | .register n =>
    match l.arena.register n with
    | .ok arena => (.registered, { l with arena, registered := l.registered ++ [n] })
    | .error f => (.refused f, l)
  | .claim key =>
    match l.arena.claim key with
    | .ok (n, arena) => (.handedOut n, { l with arena, handedOut := l.handedOut ++ [n] })
    | .error f => (.refused f, l)
  | .lookup key => (.shown (l.arena.lookup? key), l)
  | .clone => (.cloned, l)

/-- The life of a clone: it is made with the nodes that are there. -/
def clone (l : Life) : Life :=
  { arena := l.arena.clone, registered := l.arena.nodes }

/-- The lives that a request begins. -/
def begun (l : Life) : Request → List Life
  | .clone => [l.clone]
  | _ => []

/-- Ask one of several arenas for something. Clones come last; an arena that is not there is not asked. -/
def step (lives : List Life) (asked : Nat × Request) : List Life :=
  match lives[asked.1]? with
  | none => lives
  | some l => lives.set asked.1 (l.ask asked.2).2 ++ l.begun asked.2

/-- What requests lead to, one after the other, from an empty arena. -/
def run (history : List (Nat × Request)) : List Life :=
  history.foldl step [{}]

/-- An arena holds what is recorded of it. -/
structure Recorded (l : Life) : Prop where
  order_eq : l.arena.order = l.registered.map Node.key
  claimed_eq : l.arena.claimed = (l.handedOut.map Node.key).reverse
  slots_eq : l.arena.slots = l.registered.filter fun n => n.key ∉ l.handedOut.map Node.key
  distinct : (l.registered.map Node.key).Nodup
  once : (l.handedOut.map Node.key).Nodup
  known : ∀ n ∈ l.handedOut, n ∈ l.registered

end Life

variable {a b : Arena} {n : Node} {key : Key}

/-! ### When requests are refused -/

theorem claim_eq_alreadyClaimed_iff :
    a.claim key = .error (.refused .alreadyClaimed key) ↔ key ∈ a.claimed := by
  unfold claim
  split
  · rename_i earlier
    simpa using earlier
  · rename_i unclaimed
    split
    · simpa [Failure.refused] using unclaimed
    · simpa using unclaimed

theorem claim_eq_unknownNode_iff :
    a.claim key = .error (.refused .unknownNode key) ↔ key ∉ a.claimed ∧ key ∉ a.keys := by
  rw [← lookup_isSome_iff]
  unfold claim
  split
  · rename_i earlier
    simpa [Failure.refused] using fun unclaimed => absurd (by simpa using earlier) unclaimed
  · rename_i unclaimed
    split
    · rename_i absent
      simpa [absent] using unclaimed
    · rename_i found
      simp [found]

/-- A node is handed out exactly when it is found under a key that was not claimed. -/
theorem exists_claim_iff :
    (∃ b, a.claim key = .ok (n, b)) ↔ key ∉ a.claimed ∧ a.lookup? key = some n := by
  constructor
  · rintro ⟨b, taken⟩
    obtain ⟨unclaimed, found, -⟩ := claim_cases taken
    exact ⟨unclaimed, found⟩
  · rintro ⟨unclaimed, found⟩
    exact ⟨_, claim_of_lookup unclaimed found⟩

theorem register_eq_duplicateKey_iff :
    a.register n = .error (.refused .duplicateKey n.key) ↔ n.key ∈ a.keys ∨ n.key ∈ a.claimed := by
  rw [← lookup_isSome_iff]
  unfold register
  split
  · rename_i taken
    simpa using taken
  · rename_i free
    simpa using free

theorem exists_register_iff :
    (∃ b, a.register n = .ok b) ↔ n.key ∉ a.keys ∧ n.key ∉ a.claimed := by
  constructor
  · rintro ⟨b, added⟩
    obtain ⟨absent, unclaimed, -⟩ := register_cases added
    exact ⟨absent, unclaimed⟩
  · rintro ⟨absent, unclaimed⟩
    exact ⟨_, register_of_fresh absent unclaimed⟩

/-! ### What is recorded -/

namespace Life

variable {l : Life}

namespace Recorded

theorem start : Recorded {} :=
  ⟨rfl, rfl, rfl, .nil, .nil, by simp⟩

theorem mem_order (recorded : l.Recorded) : key ∈ l.arena.order ↔ key ∈ l.registered.map Node.key := by
  rw [recorded.order_eq]

theorem mem_claimed (recorded : l.Recorded) :
    key ∈ l.arena.claimed ↔ key ∈ l.handedOut.map Node.key := by
  rw [recorded.claimed_eq, List.mem_reverse]

theorem mem_slots (recorded : l.Recorded) :
    n ∈ l.arena.slots ↔ n ∈ l.registered ∧ n.key ∉ l.handedOut.map Node.key := by
  rw [recorded.slots_eq, List.mem_filter, decide_eq_true_iff]

theorem wellFormed (recorded : l.Recorded) : l.arena.WellFormed := by
  refine ⟨?_, ?_, ?_⟩
  · rw [recorded.order_eq]
    exact recorded.distinct
  · intro key claimed
    obtain ⟨n, gone, rfl⟩ := List.mem_map.mp (recorded.mem_claimed.mp claimed)
    exact recorded.mem_order.mpr (List.mem_map_of_mem (recorded.known n gone))
  · rw [keys, recorded.slots_eq, recorded.order_eq, List.filter_map]
    congr 1
    apply List.filter_congr
    intro n _
    rw [Bool.eq_iff_iff]
    simp [recorded.claimed_eq]

theorem mem_keys (recorded : l.Recorded) : key ∈ l.arena.keys ↔
    key ∈ l.registered.map Node.key ∧ key ∉ l.handedOut.map Node.key := by
  rw [recorded.wellFormed.mem_keys, recorded.mem_order, recorded.mem_claimed]

theorem register (recorded : l.Recorded) (added : l.arena.register n = .ok b) :
    Recorded { l with arena := b, registered := l.registered ++ [n] } := by
  obtain ⟨absent, unclaimed, rfl⟩ := register_cases added
  rw [recorded.mem_claimed] at unclaimed
  have fresh : n.key ∉ l.registered.map Node.key :=
    fun again => absent (recorded.mem_keys.mpr ⟨again, unclaimed⟩)
  refine ⟨?_, recorded.claimed_eq, ?_, ?_, recorded.once, ?_⟩
  · simp [recorded.order_eq]
  · rw [List.filter_append, ← recorded.slots_eq, List.filter_singleton]
    simp [unclaimed]
  · rw [List.map_append, List.map_singleton, ← List.concat_eq_append]
    exact recorded.distinct.concat fresh
  · exact fun m gone => List.mem_append_left _ (recorded.known m gone)

theorem claim (recorded : l.Recorded) (taken : l.arena.claim key = .ok (n, b)) :
    Recorded { l with arena := b, handedOut := l.handedOut ++ [n] } := by
  obtain ⟨unclaimed, found, rfl⟩ := claim_cases taken
  obtain rfl := key_of_lookup found
  rw [recorded.mem_claimed] at unclaimed
  refine ⟨recorded.order_eq, ?_, ?_, recorded.distinct, ?_, ?_⟩
  · -- the arena lists claims newest first
    simp [recorded.claimed_eq]
  · rw [recorded.slots_eq, List.filter_filter]
    apply List.filter_congr
    intro m _
    rw [Bool.eq_iff_iff]
    simp [and_comm]
  · rw [List.map_append, List.map_singleton, ← List.concat_eq_append]
    exact recorded.once.concat unclaimed
  · intro m gone
    rcases List.mem_append.mp gone with earlier | last
    · exact recorded.known m earlier
    · rw [List.mem_singleton.mp last]
      exact (recorded.mem_slots.mp (mem_of_lookup found)).1

theorem ask (recorded : l.Recorded) (r : Request) : (l.ask r).2.Recorded := by
  unfold Life.ask
  split
  · split
    · rename_i added
      exact recorded.register added
    · exact recorded
  · split
    · rename_i taken
      exact recorded.claim taken
    · exact recorded
  · exact recorded
  · exact recorded

theorem clone (recorded : l.Recorded) : l.clone.Recorded := by
  have distinct : (l.arena.nodes.map Node.key).Nodup := by
    rw [recorded.wellFormed.nodes_eq]
    exact recorded.wellFormed.keys_nodup
  exact ⟨rfl, rfl, by simp [Life.clone, Arena.clone], distinct, .nil, by simp [Life.clone]⟩

theorem begun (recorded : l.Recorded) (r : Request) : ∀ other ∈ l.begun r, other.Recorded := by
  cases r with
  | clone =>
    intro other member
    rw [List.mem_singleton.mp member]
    exact recorded.clone
  | register | claim | lookup => simp [Life.begun]

end Recorded

/-- One request keeps every record right. -/
theorem recorded_step {lives : List Life} (recorded : ∀ l ∈ lives, l.Recorded) (asked : Nat × Request) :
    ∀ l ∈ step lives asked, l.Recorded := by
  unfold step
  split
  · exact recorded
  · rename_i l found
    have here := recorded l (List.mem_of_getElem? found)
    intro other member
    rcases List.mem_append.mp member with kept | made
    · rcases List.mem_or_eq_of_mem_set kept with earlier | rfl
      · exact recorded other earlier
      · exact here.ask asked.2
    · exact here.begun asked.2 other made

/-- So do all requests of a history. -/
theorem recorded_run (history : List (Nat × Request)) : ∀ l ∈ run history, l.Recorded := by
  suffices kept : ∀ lives : List Life, (∀ l ∈ lives, l.Recorded) →
      ∀ l ∈ history.foldl step lives, l.Recorded by
    exact kept [{}] fun l only => List.mem_singleton.mp only ▸ .start
  induction history with
  | nil => exact fun lives recorded => recorded
  | cons asked rest ih => exact fun lives recorded => ih _ (recorded_step recorded asked)

/-! ### What a record tells -/

/-- What is in an arena, and what it hands out, takes in and refuses, told from its life. -/
structure Accounted (l : Life) : Prop where
  order_nodup : l.arena.order.Nodup
  keys_nodup : l.arena.keys.Nodup
  apart : ∀ key ∈ l.arena.keys, key ∉ l.arena.claimed
  together : ∀ key, key ∈ l.arena.keys ∨ key ∈ l.arena.claimed ↔ key ∈ l.arena.order
  slot : ∀ key ∈ l.arena.keys, ∃ n, l.arena.lookup? key = some n ∧ n.key = key
  nodes_eq : l.arena.nodes = l.registered.filter fun n => n.key ∉ l.handedOut.map Node.key
  nodes_order : l.arena.nodes.map Node.key = l.arena.order.filter fun key => key ∉ l.arena.claimed
  size_eq : l.arena.size = l.arena.nodes.length
  once : (l.handedOut.map Node.key).Nodup
  hands_out : ∀ key n, (∃ b, l.arena.claim key = .ok (n, b)) ↔
    n ∈ l.registered ∧ n.key = key ∧ key ∉ l.handedOut.map Node.key
  already : ∀ key, l.arena.claim key = .error (.refused .alreadyClaimed key) ↔
    key ∈ l.handedOut.map Node.key
  unknown : ∀ key, l.arena.claim key = .error (.refused .unknownNode key) ↔
    key ∉ l.registered.map Node.key
  takes_in : ∀ n, (∃ b, l.arena.register n = .ok b) ↔ n.key ∉ l.registered.map Node.key
  duplicate : ∀ n, l.arena.register n = .error (.refused .duplicateKey n.key) ↔
    n.key ∈ l.registered.map Node.key
  clone_nodes : l.arena.clone.nodes = l.arena.nodes
  clone_claimed : l.arena.clone.claimed = []

theorem Recorded.handedOut_known (recorded : l.Recorded) (gone : key ∈ l.handedOut.map Node.key) :
    key ∈ l.registered.map Node.key := by
  obtain ⟨n, member, rfl⟩ := List.mem_map.mp gone
  exact List.mem_map_of_mem (recorded.known n member)

/-- A key is there, or its node was handed out, exactly when it is registered. -/
theorem Recorded.mem_keys_or_claimed (recorded : l.Recorded) :
    key ∈ l.arena.keys ∨ key ∈ l.arena.claimed ↔ key ∈ l.registered.map Node.key := by
  rw [recorded.mem_keys, recorded.mem_claimed]
  constructor
  · rintro (⟨present, -⟩ | gone)
    · exact present
    · exact recorded.handedOut_known gone
  · intro present
    by_cases gone : key ∈ l.handedOut.map Node.key
    · exact .inr gone
    · exact .inl ⟨present, gone⟩

theorem Recorded.accounted (recorded : l.Recorded) : l.Accounted := by
  have formed := recorded.wellFormed
  have listed : l.arena.nodes = l.arena.slots := formed.nodes_eq
  refine
    { order_nodup := formed.order_nodup
      keys_nodup := formed.keys_nodup
      apart := fun key present => (formed.mem_keys.mp present).2
      together := fun key => recorded.mem_keys_or_claimed.trans recorded.mem_order.symm
      slot := ?_
      nodes_eq := listed.trans recorded.slots_eq
      nodes_order := ?_
      size_eq := congrArg List.length listed.symm
      once := recorded.once
      hands_out := ?_
      already := fun key => claim_eq_alreadyClaimed_iff.trans recorded.mem_claimed
      unknown := ?_
      takes_in := ?_
      duplicate := fun n => register_eq_duplicateKey_iff.trans recorded.mem_keys_or_claimed
      clone_nodes := ?_
      clone_claimed := rfl }
  · intro key present
    obtain ⟨n, found⟩ := Option.isSome_iff_exists.mp (lookup_isSome_iff.mpr present)
    exact ⟨n, found, key_of_lookup found⟩
  · rw [listed]
    refine formed.keys_eq.trans (List.filter_congr fun key _ => ?_)
    rw [Bool.eq_iff_iff]
    simp
  · intro key n
    rw [exists_claim_iff, lookup_eq_some_iff formed.keys_nodup, recorded.mem_claimed,
      recorded.mem_slots]
    constructor
    · rintro ⟨unclaimed, ⟨present, -⟩, rfl⟩
      exact ⟨present, rfl, unclaimed⟩
    · rintro ⟨present, rfl, unclaimed⟩
      exact ⟨unclaimed, ⟨present, unclaimed⟩, rfl⟩
  · intro key
    rw [claim_eq_unknownNode_iff, ← not_or, or_comm, recorded.mem_keys_or_claimed]
  · intro n
    rw [exists_register_iff, ← not_or, recorded.mem_keys_or_claimed]
  · rw [clone_eq, nodes_ofNodes]
    rw [listed]
    exact formed.keys_nodup

/-! ### What a request leaves alone -/

/-- A refusal changes nothing. -/
theorem ask_refused {r : Request} (refused : (l.ask r).1 = .refused f) : (l.ask r).2 = l := by
  cases r with
  | register n =>
    simp only [ask] at refused ⊢
    split at refused
    · cases refused
    · rfl
  | claim key =>
    simp only [ask] at refused ⊢
    split at refused
    · cases refused
    · rfl
  | lookup | clone => rfl

theorem step_other {lives : List Life} {asked : Nat × Request} {i : Nat} (other : i ≠ asked.1)
    (there : i < lives.length) : (step lives asked)[i]? = lives[i]? := by
  unfold step
  split
  · rfl
  · rw [List.getElem?_append_left (by simpa using there), List.getElem?_set_ne other.symm]

/-- A request that changes nothing in its arena leaves all arenas as they are, but for a clone. -/
theorem step_unchanged {lives : List Life} {i : Nat} {r : Request} (found : lives[i]? = some l)
    (unchanged : (l.ask r).2 = l) : step lives (i, r) = lives ++ l.begun r := by
  obtain ⟨there, rfl⟩ := List.getElem?_eq_some_iff.mp found
  simp only [step, found, unchanged, List.set_getElem_self]

/-- After every sequence of requests, every arena is accounted for by its life. The next request, to
whichever arena, leaves all others as they are, the arena itself when it is refused or asks for a
clone, and adds nothing but a clone. -/
theorem accounted_run (history : List (Nat × Request)) :
    (∀ l ∈ run history, l.Accounted) ∧
    (∀ i r f l, (run history)[i]? = some l → (l.ask r).1 = .refused f →
      step (run history) (i, r) = run history) ∧
    (∀ i l, (run history)[i]? = some l →
      step (run history) (i, .clone) = run history ++ [l.clone]) ∧
    ∀ i j r, j ≠ i → j < (run history).length →
      (step (run history) (i, r))[j]? = (run history)[j]? := by
  refine ⟨?_, ?_, ?_, fun i j r other there => step_other other there⟩
  · exact fun l member => (recorded_run history l member).accounted
  · intro i r f l found refused
    rw [step_unchanged found (ask_refused refused)]
    cases r with
    | clone => cases refused
    | register | claim | lookup => exact List.append_nil _
  · exact fun i l found => step_unchanged found rfl

/-- Of two nodes, the first is handed out and registered anew in vain; then the arena is cloned, and the
clone hands out the second. -/
def handover : List (Nat × Request) :=
  [(0, .register { key := ⟨0, 0⟩ }), (0, .register { key := ⟨0, 1⟩ }), (0, .claim ⟨0, 0⟩),
    (0, .register { key := ⟨0, 0⟩ }), (0, .clone), (1, .claim ⟨0, 1⟩)]

/-- The arena remembers what it handed out and keeps the second node; the clone never knew the first. -/
theorem accounted_run_handover :
    ∃ l copy, run handover = [l, copy] ∧ l.arena.nodes = [{ key := ⟨0, 1⟩ }] ∧
      l.arena.claim ⟨0, 0⟩ = .error (.refused .alreadyClaimed ⟨0, 0⟩) ∧
      copy.arena.claim ⟨0, 0⟩ = .error (.refused .unknownNode ⟨0, 0⟩) ∧
      copy.arena.claim ⟨0, 1⟩ = .error (.refused .alreadyClaimed ⟨0, 1⟩) ∧
      step (run handover) (0, .claim ⟨0, 0⟩) = run handover := by
  obtain ⟨accounted, refused, -⟩ := accounted_run handover
  obtain ⟨l, copy, lives, first, gone, known, left⟩ : ∃ l copy, run handover = [l, copy] ∧
      l.registered = [{ key := ⟨0, 0⟩ }, { key := ⟨0, 1⟩ }] ∧ l.handedOut = [{ key := ⟨0, 0⟩ }] ∧
        copy.registered = [{ key := ⟨0, 1⟩ }] ∧ copy.handedOut = [{ key := ⟨0, 1⟩ }] :=
    ⟨_, _, rfl, rfl, rfl, rfl, rfl⟩
  have one := accounted l (by simp [lives])
  have other := accounted copy (by simp [lives])
  have again := (one.already ⟨0, 0⟩).mpr (by simp [gone])
  refine ⟨l, copy, lives, ?_, again, ?_, ?_, ?_⟩
  · rw [one.nodes_eq, first, gone]
    rfl
  · exact (other.unknown ⟨0, 0⟩).mpr (by simp [known])
  · exact (other.already ⟨0, 1⟩).mpr (by simp [left])
  · refine refused 0 (.claim ⟨0, 0⟩) (.refused .alreadyClaimed ⟨0, 0⟩) l (by simp [lives]) ?_
    simp only [ask, again]

end Life

end SystemLoops.Arena
