import SystemLoops.Generated.Assembly
import SystemLoops.Proofs.ArenaInvariant

/-!
Renderings that succeed, as finite derivations. A derivation lists the keys in the order in which their
nodes are taken out of the arena, so what is left is the arena without them. The preamble of a method
and the body of a node are rendered alike, but only a node says how deep its children are.
-/

namespace SystemLoops

namespace Loop

/-- The loop of a node around the pieces of its body. -/
def around (o : LoopOptions) (n : Node) (pieces : List Rendered) : Rendered :=
  { text := frame o n.key.depth n.signature n.bindings (Text.unlines (pieces.map Rendered.text))
      (pieces.flatMap Rendered.free)
    free := freeNames n.bindings (pieces.flatMap Rendered.free) }

/-- The segments of a body, or of the preamble when there is no parent, render to some pieces. The keys
are those taken out of the first arena, in order; the second arena is left. -/
inductive Rendering (o : LoopOptions) :
    Option Key → Arena → Template → List Rendered → List Key → Arena → Prop where
  | nil : Rendering o parent a [] [] [] a
  | text (rest : Rendering o parent a segments pieces met b) :
      Rendering o parent a (.text source :: segments) (⟨source, Source.identifiers source⟩ :: pieces)
        met b
  | loop (fits : ∀ p ∈ parent, key.isChildOf p = true) (taken : a.claim key = .ok (n, left))
      (inside : Rendering o (some n.key) left n.body enclosed within middle)
      (rest : Rendering o parent middle segments pieces met b) :
      Rendering o parent a (.hole key :: segments) (around o n enclosed :: pieces)
        (key :: (within ++ met)) b

/-! ### What rendering computes -/

/-- What rendering did to an arena, as a pair. -/
def Step.result {a : Arena} (s : Step a α) : Except Failure α × Arena :=
  (s.outcome, s.arena)

section

variable {o : LoopOptions} {parent : Key} {a left : Arena} {key : Key} {n : Node} {f : Failure}

theorem renderNode_refused (refused : a.claim key = .error f) :
    (renderNode o a key).result = (.error f, a) := by
  rw [renderNode]
  split
  · rename_i g same
    cases refused.symm.trans same
    rfl
  · rename_i same
    cases refused.symm.trans same

theorem renderNode_taken (taken : a.claim key = .ok (n, left)) :
    (renderNode o a key).result =
      (renderSegments o n.key left n.body).result.map (Except.map (around o n)) id := by
  rw [renderNode]
  split
  · rename_i same
    cases taken.symm.trans same
  · rename_i m rest same
    cases taken.symm.trans same
    simp only [Step.result, Prod.map]
    cases (renderSegments o n.key left n.body).outcome <;> rfl

theorem render_eq : render o a key = (renderNode o a key).result.map (Except.map Rendered.text) id :=
  rfl

theorem renderSegments_nil : (renderSegments o parent a []).result = (.ok [], a) := by
  rw [renderSegments]
  rfl

theorem renderSegments_text (source : Text) (rest : Template) :
    (renderSegments o parent a (.text source :: rest)).result =
      (renderSegments o parent a rest).result.map
        (Except.map (⟨source, Source.identifiers source⟩ :: ·)) id := by
  rw [renderSegments]
  simp only [Step.result, Prod.map]
  cases (renderSegments o parent a rest).outcome <;> rfl

theorem renderSegments_hole (key : Key) (rest : Template) :
    (renderSegments o parent a (.hole key :: rest)).result =
      if key.isChildOf parent then
        match (renderNode o a key).result with
        | (.error f, left) => (.error (.around ("node " ++ parent.render ++ ": ") f []), left)
        | (.ok piece, left) =>
          (renderSegments o parent left rest).result.map (Except.map (piece :: ·)) id
      else (.error (.plain ("node " ++ parent.render ++ ": child " ++ key.render
        ++ " is not one level deeper")), a) := by
  rw [renderSegments]
  split
  · simp only [Step.result]
    cases (renderNode o a key).outcome with
    | error f => rfl
    | ok piece =>
      simp only [Prod.map]
      cases (renderSegments o parent (renderNode o a key).arena rest).outcome <;> rfl
  · rfl

end

/-! ### Rendering computes derivations -/

namespace Rendering

variable {o : LoopOptions} {parent : Key} {a b : Arena} {segments : Template}
  {pieces : List Rendered} {met : List Key}

/-- A derivation under a node is what rendering the body of the node computes. -/
theorem segments_eq (rendering : Rendering o (some parent) a segments pieces met b) :
    (renderSegments o parent a segments).result = (.ok pieces, b) := by
  generalize owner : some parent = above at rendering
  induction rendering generalizing parent with
  | nil => exact renderSegments_nil
  | text _ ih =>
    rw [renderSegments_text, ih owner]
    rfl
  | loop fits taken _ _ ihInside ihRest =>
    rw [renderSegments_hole, if_pos (fits parent (by simp [← owner])), renderNode_taken taken,
      ihInside rfl]
    simp only [Prod.map, Except.map, id_eq, ihRest owner]

theorem map_eq_ok {result : Except Failure α × Arena} {f : α → β} {value : β} {left : Arena} :
    result.map (Except.map f) id = (.ok value, left) ↔ ∃ x, result = (.ok x, left) ∧ f x = value := by
  obtain ⟨outcome, kept⟩ := result
  cases outcome with
  | error => simp [Except.map]
  | ok x => simp [Except.map, and_comm]

/-- A body that renders has a derivation. Only claiming a node makes the arena smaller, so the recursion is
on the arena and then on the pieces. -/
theorem exists_of_segments (o : LoopOptions) (parent : Key) (a : Arena) (segments : Template)
    (pieces : List Rendered) (b : Arena)
    (rendered : (renderSegments o parent a segments).result = (.ok pieces, b)) :
    ∃ met, Rendering o (some parent) a segments pieces met b := by
  match segments with
  | [] =>
    rw [renderSegments_nil] at rendered
    cases rendered
    exact ⟨[], .nil⟩
  | .text source :: rest =>
    rw [renderSegments_text, map_eq_ok] at rendered
    obtain ⟨later, succeeded, rfl⟩ := rendered
    obtain ⟨met, rendering⟩ := exists_of_segments o parent a rest later b succeeded
    exact ⟨met, .text rendering⟩
  | .hole key :: rest =>
    rw [renderSegments_hole] at rendered
    split at rendered
    · rename_i fits
      match taken : a.claim key with
      | .error f =>
        rw [renderNode_refused taken] at rendered
        cases rendered
      | .ok (n, left) =>
        rw [renderNode_taken taken] at rendered
        match within : (renderSegments o n.key left n.body).result with
        | (.error f, middle) =>
          rw [within] at rendered
          cases rendered
        | (.ok enclosed, middle) =>
          rw [within] at rendered
          obtain ⟨later, succeeded, rfl⟩ := map_eq_ok.mp rendered
          have fewer := Arena.size_claim_lt taken
          have same : (renderSegments o n.key left n.body).arena = middle := congrArg Prod.snd within
          have bound : middle.size ≤ left.size :=
            same ▸ (renderSegments o n.key left n.body).no_larger
          obtain ⟨inner, inside⟩ := exists_of_segments o n.key left n.body enclosed middle within
          obtain ⟨met, rendering⟩ := exists_of_segments o parent middle rest later b succeeded
          exact ⟨_, .loop (by simpa using fits) taken inside rendering⟩
    · cases rendered
termination_by (a.size, segments.length)

/-- A loop renders exactly when it has a derivation, as the one piece of a preamble. -/
theorem render_eq_ok {o : LoopOptions} {a b : Arena} {key : Key} {text : Text} :
    render o a key = (.ok text, b) ↔
      ∃ piece met, Rendering o none a [.hole key] [piece] met b ∧ piece.text = text := by
  constructor
  · intro rendered
    rw [render_eq, map_eq_ok] at rendered
    obtain ⟨piece, succeeded, rfl⟩ := rendered
    match taken : a.claim key with
    | .error f =>
      rw [renderNode_refused taken] at succeeded
      cases succeeded
    | .ok (n, left) =>
      rw [renderNode_taken taken, map_eq_ok] at succeeded
      obtain ⟨enclosed, within, rfl⟩ := succeeded
      obtain ⟨met, inside⟩ := exists_of_segments o n.key left n.body enclosed b within
      exact ⟨_, _, .loop (by simp) taken inside .nil, rfl⟩
  · rintro ⟨piece, met, rendering, rfl⟩
    cases rendering with
    | loop _ taken inside nothing =>
      cases nothing with
      | nil =>
        rw [render_eq, renderNode_taken taken, inside.segments_eq]
        rfl

theorem preamble_eq (rendering : Rendering o none a segments pieces met b) :
    Assembly.renderPreamble o a segments = (.ok (pieces.map Rendered.text), b) := by
  generalize owner : none = above at rendering
  induction rendering with
  | nil => rfl
  | text _ ih =>
    rw [Assembly.renderPreamble, ih owner]
    rfl
  | loop _ taken inside _ _ ihRest =>
    rw [Assembly.renderPreamble, render_eq, renderNode_taken taken, inside.segments_eq]
    simp [Except.map, ihRest owner]

end Rendering

/-- The keys that holes lead to from some roots, through the bodies of some nodes. -/
inductive Reaches (nodes : List Node) (roots : List Key) : Key → Prop where
  | root (member : key ∈ roots) : Reaches nodes roots key
  | child (reached : Reaches nodes roots n.key) (present : n ∈ nodes) (held : key ∈ n.body.holes) :
      Reaches nodes roots key

theorem Reaches.trans {nodes others : List Node} {roots sources : List Key}
    (reached : Reaches nodes roots key) (present : ∀ n ∈ nodes, n ∈ others)
    (led : ∀ root ∈ roots, Reaches others sources root) : Reaches others sources key := by
  induction reached with
  | root member => exact led _ member
  | child _ member held ih => exact .child ih (present _ member) held

/-! ### What is left -/

namespace Rendering

variable {o : LoopOptions} {a b : Arena} {segments : Template} {pieces : List Rendered}
  {met : List Key}

variable {above : Option Key}

theorem left_eq (rendering : Rendering o above a segments pieces met b) : b = a.without met := by
  induction rendering with
  | nil => exact (Arena.without_nil _).symm
  | text _ ih => exact ih
  | loop _ taken _ _ ihInside ihRest =>
    rw [ihRest, ihInside, Arena.eq_without_of_claim taken, Arena.without_without,
      Arena.without_without, List.singleton_append]

theorem met_nodup (rendering : Rendering o above a segments pieces met b) :
    met.Nodup ∧ ∀ key ∈ met, key ∈ a.keys := by
  induction rendering with
  | nil => simp
  | text _ ih => exact ih
  | @loop _ _ _ within _ _ _ met _ a key n _ taken inside _ ihInside ihRest =>
    have here : key ∈ a.keys :=
      Arena.lookup_isSome_iff.mp (by simp [(Arena.claim_cases taken).2.1])
    obtain ⟨withinNodup, withinThere⟩ := ihInside
    obtain ⟨metNodup, metThere⟩ := ihRest
    rw [Arena.eq_without_of_claim taken] at withinThere
    rw [inside.left_eq, Arena.eq_without_of_claim taken, Arena.without_without] at metThere
    refine ⟨?_, ?_⟩
    · rw [List.nodup_cons, List.mem_append, List.nodup_append]
      refine ⟨?_, withinNodup, metNodup, ?_⟩
      · rintro (again | again)
        · exact (Arena.mem_keys_without.mp (withinThere key again)).2 (by simp)
        · exact (Arena.mem_keys_without.mp (metThere key again)).2 (by simp)
      · rintro first earlier second later rfl
        exact (Arena.mem_keys_without.mp (metThere first later)).2 (by simp [earlier])
    · intro other member
      rcases List.mem_cons.mp member with rfl | member
      · exact here
      · rcases List.mem_append.mp member with earlier | later
        · exact (Arena.mem_keys_without.mp (withinThere other earlier)).1
        · exact (Arena.mem_keys_without.mp (metThere other later)).1

theorem holes_met (rendering : Rendering o above a segments pieces met b) :
    ∀ key ∈ segments.holes, key ∈ met := by
  induction rendering with
  | nil => simp
  | text _ ih => exact ih
  | loop _ _ _ _ _ ihRest =>
    intro other member
    rcases List.mem_cons.mp member with rfl | later
    · exact List.mem_cons_self
    · exact List.mem_cons_of_mem _ (List.mem_append_right _ (ihRest other later))

/-- With a node, the nodes that it holds are met. -/
theorem met_closed (rendering : Rendering o above a segments pieces met b) (distinct : a.keys.Nodup) :
    ∀ n ∈ a.slots, n.key ∈ met → ∀ key ∈ n.body.holes, key ∈ met := by
  induction rendering with
  | nil => simp
  | text _ ih => exact ih distinct
  | @loop _ _ _ within _ _ _ met _ a key n _ taken inside rest ihInside ihRest =>
    intro m present named child held
    obtain ⟨-, found, -⟩ := Arena.claim_cases taken
    have remaining := Arena.eq_without_of_claim taken
    rcases List.mem_cons.mp named with same | named
    · have identical : m = n := Arena.eq_of_key_eq distinct present (Arena.mem_of_lookup found)
        (same.trans (Arena.key_of_lookup found).symm)
      subst m
      exact List.mem_cons_of_mem _ (List.mem_append_left _ (inside.holes_met child held))
    · rcases List.mem_append.mp named with earlier | later
      · have there := inside.met_nodup.2 m.key earlier
        rw [remaining] at ihInside there
        have kept := Arena.mem_slots_without.mpr ⟨present, (Arena.mem_keys_without.mp there).2⟩
        have covered := ihInside (Arena.keys_without_nodup distinct) m kept earlier child held
        exact List.mem_cons_of_mem _ (List.mem_append_left _ covered)
      · have there := rest.met_nodup.2 m.key later
        rw [inside.left_eq, remaining, Arena.without_without] at ihRest there
        have kept := Arena.mem_slots_without.mpr ⟨present, (Arena.mem_keys_without.mp there).2⟩
        have covered := ihRest (Arena.keys_without_nodup distinct) m kept later child held
        exact List.mem_cons_of_mem _ (List.mem_append_right _ covered)

theorem met_reached (rendering : Rendering o above a segments pieces met b) :
    ∀ key ∈ met, Reaches a.slots segments.holes key := by
  induction rendering with
  | nil => simp
  | text _ ih => exact ih
  | @loop _ _ _ _ _ segments _ _ _ a key n _ taken inside _ ihInside ihRest =>
    obtain ⟨-, found, -⟩ := Arena.claim_cases taken
    have remaining := Arena.eq_without_of_claim taken
    have here : Reaches a.slots (key :: segments.holes) n.key :=
      .root (by simp [Arena.key_of_lookup found])
    intro other member
    rcases List.mem_cons.mp member with rfl | member
    · exact .root (by simp)
    · rcases List.mem_append.mp member with earlier | later
      · refine (ihInside other earlier).trans ?_ ?_
        · intro m present
          rw [remaining] at present
          exact (Arena.mem_slots_without.mp present).1
        · intro child held
          exact .child here (Arena.mem_of_lookup found) held
      · refine (ihRest other later).trans ?_ ?_
        · intro m present
          rw [inside.left_eq, remaining, Arena.without_without] at present
          exact (Arena.mem_slots_without.mp present).1
        · intro root listed
          exact .root (List.mem_cons_of_mem _ listed)

/-- Exactly the keys that the holes lead to are met. -/
theorem mem_met_iff (rendering : Rendering o above a segments pieces met b) (distinct : a.keys.Nodup) :
    key ∈ met ↔ Reaches a.slots segments.holes key := by
  constructor
  · exact rendering.met_reached key
  · intro reached
    induction reached with
    | root member => exact rendering.holes_met _ member
    | child _ present held ih => exact rendering.met_closed distinct _ present ih _ held

end Rendering

end Loop

/-! ### The unit of a method -/

/-- A method whose preamble renders has a unit: its body is the rendered pieces, and its warnings are
about the loops that share a query without sharing what it leaves out. -/
theorem Assembly.ofAnalysis_of_rendering {a : Analysis} {options : UnitOptions}
    (valid : a.system.isValid = true)
    (rendering : Loop.Rendering (loopOptions a options) none (a.arena.getD .empty).clone a.preamble
      pieces met left) :
    ∃ parts, ofAnalysis a options = .ok (parts, (Declared.ofNodes a.nodes).conflicts.map
        (conflictWarning (a.arena.getD .empty))) ∧
      parts.body = Source.indentBy 1 (Text.unlines (pieces.map Loop.Rendered.text)) := by
  obtain ⟨lowered, fits⟩ := Identifier.lowerFirst_of_valid valid
  simp only [ofAnalysis, fits, rendering.preamble_eq]
  exact ⟨_, rfl, rfl⟩

end SystemLoops
