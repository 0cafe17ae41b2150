import Mathlib.Data.List.Induction
import Mathlib.Data.List.Nodup
import SystemLoops.Arena

namespace SystemLoops.Arena

def keys (a : Arena) : List Key :=
  a.slots.map Node.key

/-- The arena of some nodes, none of them handed out. -/
def ofNodes (nodes : List Node) : Arena :=
  { slots := nodes, claimed := [], order := nodes.map Node.key }

/-- What is left of an arena when some keys were handed out, one after the other. -/
def without (a : Arena) (met : List Key) : Arena :=
  { a with slots := a.slots.filter (fun n => !met.contains n.key), claimed := met.reverse ++ a.claimed }

def Holds (a : Arena) (nodes : List Node) : Prop :=
  ∀ n ∈ nodes, n ∈ a.slots ∧ n.key ∉ a.claimed

/-- Every key is registered once, and the nodes still there are those not handed out, in order. -/
structure WellFormed (a : Arena) : Prop where
  order_nodup : a.order.Nodup
  claimed_known : ∀ key ∈ a.claimed, key ∈ a.order
  keys_eq : a.keys = a.order.filter fun key => !a.claimed.contains key

/-- The arenas that the operations make out of the empty one. A node that is there may be revised in
place, as long as it keeps its key. -/
inductive Built : Arena → Prop where
  | empty : Built .empty
  | register (built : Built a) (added : a.register n = .ok b) : Built b
  | claim (built : Built a) (taken : a.claim key = .ok (n, b)) : Built b
  | clone (built : Built a) : Built a.clone
  | revise (built : Built a) (change : Node → Node) (kept : ∀ n, (change n).key = n.key) :
      Built { a with slots := a.slots.map change }

variable {a b : Arena} {n m : Node} {key : Key}

/-! ### Looking up and listing -/

theorem mem_keys_iff : key ∈ a.keys ↔ ∃ n ∈ a.slots, n.key = key :=
  List.mem_map

theorem key_of_lookup (found : a.lookup? key = some n) : n.key = key := by
  simpa using List.find?_some found

theorem mem_of_lookup (found : a.lookup? key = some n) : n ∈ a.slots :=
  List.mem_of_find?_eq_some found

theorem lookup_isSome_iff : (a.lookup? key).isSome ↔ key ∈ a.keys := by
  simp [lookup?, mem_keys_iff]

theorem lookup_of_not_mem (absent : key ∉ a.keys) : a.lookup? key = none := by
  rw [← Option.not_isSome_iff_eq_none, lookup_isSome_iff]
  exact absent

/-- Two nodes of a list without repeated keys are told apart by their keys. -/
theorem eq_of_key_eq {slots : List Node} (distinct : (slots.map Node.key).Nodup) (first : n ∈ slots)
    (second : m ∈ slots) (same : n.key = m.key) : n = m :=
  List.inj_on_of_nodup_map distinct first second same

theorem lookup_eq_some_iff (distinct : a.keys.Nodup) :
    a.lookup? key = some n ↔ n ∈ a.slots ∧ n.key = key := by
  constructor
  · intro found
    exact ⟨mem_of_lookup found, key_of_lookup found⟩
  · rintro ⟨member, rfl⟩
    cases found : a.lookup? n.key with
    | none =>
      have present := lookup_isSome_iff.mpr (mem_keys_iff.mpr ⟨n, member, rfl⟩)
      simp [found] at present
    | some other =>
      rw [eq_of_key_eq distinct member (mem_of_lookup found) (key_of_lookup found).symm]

theorem filterMap_lookup_keys (distinct : a.keys.Nodup) {nodes : List Node}
    (present : ∀ n ∈ nodes, n ∈ a.slots) : (nodes.map Node.key).filterMap a.lookup? = nodes := by
  induction nodes with
  | nil => rfl
  | cons n rest ih =>
    have found : a.lookup? n.key = some n :=
      (lookup_eq_some_iff distinct).mpr ⟨present n (by simp), rfl⟩
    rw [List.map_cons, List.filterMap_cons, found]
    simp only [ih fun m member => present m (by simp [member])]

namespace WellFormed

theorem keys_nodup (valid : a.WellFormed) : a.keys.Nodup := by
  rw [valid.keys_eq]
  exact valid.order_nodup.filter _

theorem mem_keys (valid : a.WellFormed) : key ∈ a.keys ↔ key ∈ a.order ∧ key ∉ a.claimed := by
  rw [valid.keys_eq]
  simp

theorem nodes_eq (valid : a.WellFormed) : a.nodes = a.slots := by
  have skipped : a.order.filterMap a.lookup? = a.keys.filterMap a.lookup? := by
    rw [valid.keys_eq, List.filterMap_filter]
    apply List.filterMap_congr
    intro key registered
    split
    · rfl
    · rename_i taken
      apply lookup_of_not_mem
      rw [valid.mem_keys]
      simp_all
  exact skipped.trans (filterMap_lookup_keys valid.keys_nodup fun _ member => member)

end WellFormed

@[simp] theorem keys_ofNodes (nodes : List Node) : (ofNodes nodes).keys = nodes.map Node.key := rfl

theorem lookup_ofNodes {nodes : List Node} (distinct : (nodes.map Node.key).Nodup)
    (member : n ∈ nodes) : (ofNodes nodes).lookup? n.key = some n :=
  (lookup_eq_some_iff (a := ofNodes nodes) distinct).mpr ⟨member, rfl⟩

theorem clone_eq (a : Arena) : a.clone = ofNodes a.nodes := rfl

theorem ofNodes_wellFormed {nodes : List Node} (distinct : (nodes.map Node.key).Nodup) :
    (ofNodes nodes).WellFormed :=
  ⟨distinct, by simp [ofNodes], by simp [ofNodes, keys]⟩

theorem nodes_ofNodes {nodes : List Node} (distinct : (nodes.map Node.key).Nodup) :
    (ofNodes nodes).nodes = nodes :=
  (ofNodes_wellFormed distinct).nodes_eq

theorem holds_ofNodes (nodes : List Node) : (ofNodes nodes).Holds nodes :=
  fun _ member => ⟨member, List.not_mem_nil⟩

/-! ### One step -/

theorem empty_wellFormed : (empty : Arena).WellFormed :=
  ⟨.nil, by simp [empty], rfl⟩

theorem register_cases (added : a.register n = .ok b) :
    n.key ∉ a.keys ∧ n.key ∉ a.claimed ∧
      b = { a with slots := a.slots ++ [n], order := a.order ++ [n.key] } := by
  unfold register at added
  split at added
  · cases added
  · rename_i free
    simp only [Bool.or_eq_true, not_or, lookup_isSome_iff] at free
    cases added
    exact ⟨free.1, by simpa using free.2, rfl⟩

theorem register_of_fresh (absent : n.key ∉ a.keys) (unclaimed : n.key ∉ a.claimed) :
    a.register n = .ok { a with slots := a.slots ++ [n], order := a.order ++ [n.key] } := by
  simp [register, lookup_of_not_mem absent, unclaimed]

theorem claim_cases (taken : a.claim key = .ok (n, b)) :
    key ∉ a.claimed ∧ a.lookup? key = some n ∧
      b = { a with slots := a.slots.filter (·.key != key), claimed := key :: a.claimed } := by
  unfold claim at taken
  split at taken
  · cases taken
  · rename_i unclaimed
    split at taken
    · cases taken
    · rename_i other found
      cases taken
      exact ⟨by simpa using unclaimed, found, rfl⟩

theorem claim_of_lookup (unclaimed : key ∉ a.claimed) (found : a.lookup? key = some n) :
    a.claim key =
      .ok (n, { a with slots := a.slots.filter (·.key != key), claimed := key :: a.claimed }) := by
  simp [claim, unclaimed, found]

theorem eq_without_of_claim (taken : a.claim key = .ok (n, b)) : b = a.without [key] := by
  obtain ⟨-, -, rfl⟩ := claim_cases taken
  simp only [without, List.reverse_singleton, List.singleton_append, Arena.mk.injEq, and_true]
  apply List.filter_congr
  intro m _
  rw [Bool.eq_iff_iff]
  simp

theorem without_nil (a : Arena) : a.without [] = a := by
  simp [without]

theorem without_without (a : Arena) (first second : List Key) :
    (a.without first).without second = a.without (first ++ second) := by
  simp [without, List.filter_filter, Bool.and_comm]

theorem mem_slots_without {met : List Key} : n ∈ (a.without met).slots ↔ n ∈ a.slots ∧ n.key ∉ met := by
  simp [without]

theorem mem_keys_without {met : List Key} :
    key ∈ (a.without met).keys ↔ key ∈ a.keys ∧ key ∉ met := by
  simp only [mem_keys_iff, mem_slots_without]
  constructor
  · rintro ⟨n, ⟨present, free⟩, rfl⟩
    exact ⟨⟨n, present, rfl⟩, free⟩
  · rintro ⟨⟨n, present, rfl⟩, free⟩
    exact ⟨n, ⟨present, free⟩, rfl⟩

theorem lookup_without {met : List Key} (kept : key ∉ met) :
    (a.without met).lookup? key = a.lookup? key := by
  rw [lookup?, without, List.find?_filter, lookup?]
  congr 1
  funext n
  by_cases same : n.key = key
  · simp [same, kept]
  · simp [same]

theorem lookup_without_of_mem {met : List Key} (taken : key ∈ met) :
    (a.without met).lookup? key = none := by
  refine lookup_of_not_mem fun present => ?_
  exact (mem_keys_without.mp present).2 taken

/-- What is left was there. -/
theorem lookup_of_lookup_without {met : List Key} (found : (a.without met).lookup? key = some n) :
    a.lookup? key = some n := by
  by_cases taken : key ∈ met
  · rw [lookup_without_of_mem taken] at found
    cases found
  · rw [← lookup_without taken, found]

theorem keys_without_nodup {met : List Key} (distinct : a.keys.Nodup) : (a.without met).keys.Nodup := by
  refine distinct.sublist ?_
  exact (List.filter_sublist).map Node.key

theorem Holds.without {met : List Key} {nodes : List Node} (holds : a.Holds nodes)
    (apart : ∀ n ∈ nodes, n.key ∉ met) : (a.without met).Holds nodes := by
  intro n member
  obtain ⟨present, unclaimed⟩ := holds n member
  refine ⟨mem_slots_without.mpr ⟨present, apart n member⟩, ?_⟩
  simp [Arena.without, unclaimed, apart n member]

/-- A node that is there can be handed out. -/
theorem claim_of_mem (distinct : a.keys.Nodup) (present : n ∈ a.slots) (unclaimed : n.key ∉ a.claimed) :
    a.claim n.key = .ok (n, a.without [n.key]) := by
  have taken := claim_of_lookup unclaimed ((lookup_eq_some_iff distinct).mpr ⟨present, rfl⟩)
  rw [taken, ← eq_without_of_claim taken]

/-- A node can be handed out, then those inside it, and those behind it are still there. -/
theorem Holds.claim {inside behind : List Node} (holds : a.Holds (n :: (inside ++ behind)))
    (distinct : a.keys.Nodup) (apart : ((n :: (inside ++ behind)).map Node.key).Nodup) :
    a.claim n.key = .ok (n, a.without [n.key]) ∧
      (inside.map Node.key).Nodup ∧ (a.without [n.key]).Holds inside ∧
      (behind.map Node.key).Nodup ∧ (a.without ([n.key] ++ inside.map Node.key)).Holds behind := by
  obtain ⟨own, others⟩ := List.nodup_cons.mp apart
  rw [List.map_append] at own others
  obtain ⟨insideNodup, behindNodup, separate⟩ := List.nodup_append.mp others
  obtain ⟨present, unclaimed⟩ := holds n List.mem_cons_self
  have holdsInside : a.Holds inside := fun m member => holds m (by simp [member])
  have holdsBehind : a.Holds behind := fun m member => holds m (by simp [member])
  refine ⟨claim_of_mem distinct present unclaimed, insideNodup, holdsInside.without ?_, behindNodup,
    holdsBehind.without ?_⟩
  · intro m member same
    rw [List.mem_singleton] at same
    exact own (List.mem_append_left _ (same ▸ List.mem_map_of_mem member))
  · intro m member same
    rcases List.mem_append.mp same with here | inward
    · rw [List.mem_singleton] at here
      exact own (List.mem_append_right _ (here ▸ List.mem_map_of_mem member))
    · exact separate _ inward _ (List.mem_map_of_mem member) rfl

theorem keys_register (added : a.register n = .ok b) : b.keys = a.keys ++ [n.key] := by
  obtain ⟨-, -, rfl⟩ := register_cases added
  simp [keys]

theorem keys_claim (taken : a.claim key = .ok (n, b)) : b.keys = a.keys.filter (· != key) := by
  obtain ⟨-, -, rfl⟩ := claim_cases taken
  simp [keys, List.filter_map, Function.comp_def]

theorem keys_revise (a : Arena) {change : Node → Node} (kept : ∀ n, (change n).key = n.key) :
    ({ a with slots := a.slots.map change } : Arena).keys = a.keys := by
  simp [keys, Function.comp_def, kept]

namespace WellFormed

theorem register (valid : a.WellFormed) (added : a.register n = .ok b) : b.WellFormed := by
  have keys := keys_register added
  obtain ⟨absent, unclaimed, rfl⟩ := register_cases added
  have unknown : n.key ∉ a.order := fun known => absent (valid.mem_keys.mpr ⟨known, unclaimed⟩)
  refine ⟨?_, ?_, ?_⟩
  · exact List.nodup_append.mpr ⟨valid.order_nodup, by simp, by
      intro key known other same
      rw [List.mem_singleton.mp same]
      rintro rfl
      exact unknown known⟩
  · intro key member
    exact List.mem_append_left _ (valid.claimed_known key member)
  · rw [keys, valid.keys_eq]
    simp [unclaimed]

theorem claim (valid : a.WellFormed) (taken : a.claim key = .ok (n, b)) : b.WellFormed := by
  have keys := keys_claim taken
  obtain ⟨unclaimed, found, rfl⟩ := claim_cases taken
  have registered : key ∈ a.order :=
    (valid.mem_keys.mp (lookup_isSome_iff.mp (by simp [found]))).1
  refine ⟨valid.order_nodup, ?_, ?_⟩
  · intro other member
    rcases List.mem_cons.mp member with rfl | earlier
    · exact registered
    · exact valid.claimed_known other earlier
  · rw [keys, valid.keys_eq, List.filter_filter]
    apply List.filter_congr
    intro other _
    rw [Bool.eq_iff_iff]
    simp

/-- A clone starts its own life: it knows no claims. -/
theorem clone (valid : a.WellFormed) : a.clone.WellFormed := by
  rw [clone_eq, valid.nodes_eq]
  exact ofNodes_wellFormed valid.keys_nodup

theorem revise (valid : a.WellFormed) {change : Node → Node} (kept : ∀ n, (change n).key = n.key) :
    ({ a with slots := a.slots.map change } : Arena).WellFormed :=
  ⟨valid.order_nodup, valid.claimed_known, (keys_revise a kept).trans valid.keys_eq⟩

end WellFormed

/-- Every arena that the operations make is well formed. -/
theorem Built.wellFormed (built : a.Built) : a.WellFormed := by
  induction built with
  | empty => exact empty_wellFormed
  | register _ added ih => exact ih.register added
  | claim _ taken ih => exact ih.claim taken
  | clone _ ih => exact ih.clone
  | revise _ change kept ih => exact ih.revise kept

theorem built_ofNodes {nodes : List Node} (distinct : (nodes.map Node.key).Nodup) :
    (ofNodes nodes).Built := by
  induction nodes using List.reverseRecOn with
  | nil => exact .empty
  | append_singleton earlier n ih =>
    rw [List.map_append, List.map_singleton] at distinct
    obtain ⟨before, -, apart⟩ := List.nodup_append.mp distinct
    have absent : n.key ∉ (ofNodes earlier).keys :=
      fun again => apart n.key again n.key (by simp) rfl
    refine .register (ih before) ((register_of_fresh absent List.not_mem_nil).trans ?_)
    simp [ofNodes]

end SystemLoops.Arena
