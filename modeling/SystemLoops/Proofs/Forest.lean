import SystemLoops.Proofs.Expansion
import SystemLoops.Proofs.Validation

/-!
The nodes of an analysed method form a forest. They are numbered in pre-order, and every node but the
outermost ones hangs below exactly one earlier node, one level up. Main statement: walking a method
gives such a forest exactly when there is a machine word for the number of every call.
-/

namespace SystemLoops

/-- The analysed form of a method is a forest of nodes that stand for its calls. -/
structure Forest (m : Method) (names : Combinators) (a : Analysis) : Prop where
  registered : a.arena = some (.ofNodes a.nodes)
  numbered : a.nodes.map (fun n => n.key.id.toNat) = List.range a.nodes.length
  preorder : List.Forall₂ (Expansion.StandsFor names) (Expansion.calls names 0 m.body) a.nodes
  shallow : ∀ n ∈ a.nodes, n.key.depth.toNat ≤ maxDepth.toNat - 1
  topLevel_eq : a.topLevel = a.preamble.holes
  held_once : ∀ n ∈ a.nodes, a.holes.count n.key = 1
  roots : ∀ n ∈ a.nodes, n.key.depth = 0 → n.key ∈ a.preamble.holes
  parents : ∀ n ∈ a.nodes, n.key.depth ≠ 0 → ∃ p ∈ a.nodes, n.key ∈ p.body.holes ∧
    n.key.depth.toNat = p.key.depth.toNat + 1 ∧ p.key.id < n.key.id
  validated : a.validate = .ok ()

namespace Growth

variable {o : WalkOptions} {receiver : Text} {stmts : List Stmt} {preamble : Template}
  {nodes : List Node} {findings : List Diagnostic} {n : Node}

/-- The numbers are the positions of the nodes, as long as they fit into a machine word. -/
theorem positions (growth : Growth o receiver 0 0 stmts preamble nodes findings)
    (room : nodes.length ≤ UInt64.size) :
    nodes.map (fun n => n.key.id.toNat) = List.range nodes.length := by
  have words := congrArg (List.map UInt64.toNat) growth.numbered
  rw [List.map_map, List.map_map] at words
  refine words.trans ?_
  rw [← List.range_eq_range']
  refine (List.map_congr_left ?_).trans (List.map_id _)
  intro i within
  have small := List.mem_range.mp within
  exact UInt64.toNat_ofNat_of_lt' (Nat.lt_of_lt_of_le small room)

/-- A node is held by the body itself or by another node. -/
theorem holder (growth : Growth o receiver depth first stmts preamble nodes findings)
    (member : n ∈ nodes) : n.key ∈ preamble.holes ∨ ∃ p ∈ nodes, n.key ∈ p.body.holes := by
  have held := growth.owned.mem_iff.mp (List.mem_map_of_mem member)
  rw [List.mem_append, List.mem_flatMap] at held
  exact held

theorem not_outermost (growth : Growth o receiver depth first stmts preamble nodes findings)
    {p : Node} (parent : p ∈ nodes) (held : key ∈ p.body.holes) :
    key.depth.toNat = p.key.depth.toNat + 1 := by
  rw [growth.deeper parent held, toNat_succ_of_shallow (growth.shallow parent)]

theorem smaller_id (growth : Growth o receiver 0 0 stmts preamble nodes findings)
    (room : nodes.length ≤ UInt64.size) {p : Node} (parent : p ∈ nodes) (held : key ∈ p.body.holes) :
    p.key.id < key.id := by
  obtain ⟨i, j, own, same, order, within⟩ := growth.earlier parent held
  have last : j < UInt64.size := by omega
  rw [own, same, UInt64.lt_iff_toNat_lt, UInt64.toNat_ofNat_of_lt' last,
    UInt64.toNat_ofNat_of_lt' (Nat.lt_trans order last)]
  exact order

end Growth

namespace Method

variable {m : Method} {o : WalkOptions} {preamble : Template} {nodes : List Node}
  {findings : List Diagnostic}

/-- What a method grew into fits together. -/
theorem fits_of_growth (growth : Growth o.complete m.receiver 0 0 m.body preamble nodes findings)
    (distinct : (nodes.map Node.key).Nodup) : (m.analysis preamble nodes findings).Fits := by
  have listed : (m.analysis preamble nodes findings).nodes = nodes := nodes_analysis distinct
  have owned : (nodes.map Node.key).Perm (m.analysis preamble nodes findings).holes := by
    rw [Analysis.holes, listed]
    exact growth.owned
  refine ⟨?_, ?_, ?_⟩
  · exact fun key member => owned.mem_iff.mpr member
  · exact owned.nodup_iff.mp distinct
  · rw [listed]
    intro n member key held
    simp [Key.isChildOf, growth.deeper member held]

theorem forest_of_growth (growth : Growth o.complete m.receiver 0 0 m.body preamble nodes findings)
    (distinct : (nodes.map Node.key).Nodup) (room : nodes.length ≤ UInt64.size) :
    Forest m o.names (m.analysis preamble nodes findings) := by
  have listed : (m.analysis preamble nodes findings).nodes = nodes := nodes_analysis distinct
  have fits := fits_of_growth growth distinct
  refine
    { registered := by rw [listed]; rfl
      numbered := by rw [listed]; exact growth.positions room
      preorder := ?_
      shallow := ?_
      -- `growth_of_analyse` turned the keys that the walk gathers into these holes, by `Walker.outermost_eq`
      topLevel_eq := rfl
      held_once := ?_
      roots := ?_
      parents := ?_
      validated := Analysis.validate_eq_ok.mpr fits }
  · rw [listed, ← o.names_complete]
    exact growth.stands_for
  · rw [listed]
    intro n member
    exact Nat.le_sub_one_of_lt (growth.shallow member)
  · rw [listed]
    intro n member
    refine List.count_eq_one_of_mem fits.single ?_
    rw [Analysis.holes, listed]
    exact growth.owned.mem_iff.mp (List.mem_map_of_mem member)
  · rw [listed]
    intro n member outermost
    rcases growth.holder member with top | ⟨p, parent, held⟩
    · exact top
    · have below := growth.not_outermost parent held
      rw [outermost] at below
      cases below
  · rw [listed]
    intro n member inner
    rcases growth.holder member with top | ⟨p, parent, held⟩
    · exact (inner (growth.level n.key top)).elim
    · exact ⟨p, parent, held, growth.not_outermost parent held, growth.smaller_id room parent held⟩

/-- Numbers that are words number at most as many nodes as there are words. -/
theorem length_of_forest {a : Analysis} (forest : Forest m o.names a) :
    (Expansion.calls o.names 0 m.body).length ≤ UInt64.size := by
  rw [forest.preorder.length_eq]
  by_contra many
  have listed : UInt64.size ∈ a.nodes.map fun n => n.key.id.toNat := by
    rw [forest.numbered]
    exact List.mem_range.mpr (Nat.lt_of_not_le many)
  obtain ⟨n, -, number⟩ := List.mem_map.mp listed
  exact Nat.lt_irrefl _ (number ▸ n.key.id.toNat_lt_size)

/-- A method has an analysed form that is a forest exactly when its calls can be numbered by machine
words, which holds of every method that fits into memory. -/
theorem analyse_forest (m : Method) (o : WalkOptions) (named : o.names.each ≠ []) :
    (∃ a, analyse (some m) o = .ok a ∧ Forest m o.names a) ↔
      (Expansion.calls o.names 0 m.body).length ≤ UInt64.size := by
  constructor
  · rintro ⟨a, -, forest⟩
    exact length_of_forest forest
  · intro sized
    obtain ⟨a, analysed⟩ := exists_analysis named sized
    obtain ⟨preamble, nodes, findings, growth, distinct, rfl⟩ := growth_of_analyse analysed
    refine ⟨_, analysed, forest_of_growth growth distinct ?_⟩
    rw [← growth.stands_for.length_eq, o.names_complete]
    exact sized

theorem analyse_forest_nested :
    ∃ a, analyse (some nested) {} = .ok a ∧ Forest nested {} a ∧ a.nodes.length = 2 := by
  obtain ⟨a, analysed, forest⟩ := (analyse_forest nested {} (by decide)).mpr (by decide)
  exact ⟨a, analysed, forest, forest.preorder.length_eq.symm⟩

end Method

end SystemLoops
