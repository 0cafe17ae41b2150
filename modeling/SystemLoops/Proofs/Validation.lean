import Mathlib.Data.List.Nodup
import SystemLoops.Proofs.Rendering

/-!
What validation decides: every hole names a node that is there, no node is named by two holes, and the
holes of a node name nodes one level deeper. Main statement: a method that passes always renders, and
rendering takes exactly the nodes that its preamble leads to, each of them once.
-/

namespace SystemLoops

namespace Analysis

/-- Every hole of a method: those of its preamble, and those of the nodes still there. -/
def holes (a : Analysis) : List Key :=
  a.preamble.holes ++ a.nodes.flatMap fun n => n.body.holes

/-- Holes and nodes fit together. -/
structure Fits (a : Analysis) : Prop where
  there : ∀ key ∈ a.holes, key ∈ (a.arena.getD .empty).keys
  single : a.holes.Nodup
  deeper : ∀ n ∈ a.nodes, ∀ key ∈ n.body.holes, key.isChildOf n.key = true

/-! ### Recording owners -/

/-- Some keys were given parents, one after the other: each is there, and had no parent before. -/
structure Recorded (arena : Arena) (owners pairs after : Owners) : Prop where
  there : ∀ key ∈ pairs.map Prod.fst, key ∈ arena.keys
  single : (pairs.map Prod.fst).Nodup
  fresh : ∀ key ∈ pairs.map Prod.fst, key ∉ owners.map Prod.fst
  after_eq : after = pairs.reverse ++ owners

variable {a : Analysis} {arena : Arena} {owners after : Owners} {key : Key} {keys : List Key}

theorem recorded_nil : Recorded arena owners [] after ↔ owners = after :=
  ⟨fun recorded => recorded.after_eq.symm, fun same => ⟨by simp, .nil, by simp, same.symm⟩⟩

theorem recorded_append {first second : Owners} :
    (∃ middle, Recorded arena owners first middle ∧ Recorded arena middle second after) ↔
      Recorded arena owners (first ++ second) after := by
  have owned (key : Key) : key ∈ (first.reverse ++ owners).map Prod.fst ↔
      key ∈ first.map Prod.fst ∨ key ∈ owners.map Prod.fst := by simp
  constructor
  · rintro ⟨_, ⟨there, single, fresh, rfl⟩, later, distinct, unowned, rfl⟩
    refine ⟨?_, ?_, ?_, by simp⟩
    · intro key member
      rw [List.map_append] at member
      exact (List.mem_append.mp member).elim (there key) (later key)
    · rw [List.map_append]
      refine List.nodup_append.mpr ⟨single, distinct, ?_⟩
      rintro key earlier _ member rfl
      exact unowned key member ((owned key).mpr (.inl earlier))
    · intro key member
      rw [List.map_append] at member
      rcases List.mem_append.mp member with earlier | latter
      · exact fresh key earlier
      · exact fun before => unowned key latter ((owned key).mpr (.inr before))
  · rintro ⟨there, single, fresh, rfl⟩
    rw [List.map_append] at there single fresh
    obtain ⟨distinct, remaining, apart⟩ := List.nodup_append.mp single
    refine ⟨_, ⟨?_, distinct, ?_, rfl⟩, ?_, remaining, ?_, by simp⟩
    · exact fun key member => there key (List.mem_append_left _ member)
    · exact fun key member => fresh key (List.mem_append_left _ member)
    · exact fun key member => there key (List.mem_append_right _ member)
    · intro key member taken
      rcases (owned key).mp taken with earlier | before
      · exact apart key earlier key member rfl
      · exact fresh key (List.mem_append_right _ member) before

theorem bind_eq_ok {x : Except Failure α} {f : α → Except Failure β} {result : β} :
    (x >>= f) = .ok result ↔ ∃ value, x = .ok value ∧ f value = .ok result := by
  cases x <;> simp [bind, Except.bind]

theorem own_eq_ok {parent : Text} :
    a.own arena owners key parent = .ok after ↔ Recorded arena owners [(key, parent)] after := by
  have known : arena.lookup? key = none ↔ key ∉ arena.keys := by
    rw [← Arena.lookup_isSome_iff, Option.not_isSome_iff_eq_none]
  have free : owners.lookup key = none ↔ key ∉ owners.map Prod.fst := by
    rw [List.lookup_eq_none_iff, List.mem_map]
    constructor
    · rintro apart ⟨pair, member, rfl⟩
      simpa using apart pair member
    · intro absent pair member
      simpa using fun same : key = pair.1 => absent ⟨pair, member, same.symm⟩
  unfold own
  split
  · rename_i missing
    have absent := known.mp (Option.isNone_iff_eq_none.mp missing)
    simp only [reduceCtorEq, false_iff]
    exact fun recorded => absent (recorded.there key (by simp))
  · rename_i found
    have there : key ∈ arena.keys := by
      by_contra absent
      exact found (Option.isNone_iff_eq_none.mpr (known.mpr absent))
    split
    · rename_i other taken
      simp only [reduceCtorEq, false_iff]
      intro recorded
      rw [free.mpr (recorded.fresh key (by simp))] at taken
      cases taken
    · rename_i unowned
      constructor
      · intro same
        cases same
        exact ⟨by simpa using there, List.nodup_singleton key, by simpa using free.mp unowned, rfl⟩
      · intro recorded
        rw [recorded.after_eq]
        rfl

theorem ownTopLevel_eq_ok :
    a.ownTopLevel arena owners keys = .ok after ↔
      Recorded arena owners (keys.map (·, Text.ofString "preamble")) after := by
  induction keys generalizing owners with
  | nil => simp [ownTopLevel, recorded_nil]
  | cons key rest ih =>
    simp only [ownTopLevel, bind_eq_ok, own_eq_ok, ih, recorded_append]
    rfl

theorem ownChildren_eq_ok {n : Node} :
    a.ownChildren arena n owners keys = .ok after ↔
      (∀ key ∈ keys, key.isChildOf n.key = true) ∧
        Recorded arena owners (keys.map (·, n.key.render)) after := by
  induction keys generalizing owners with
  | nil => simp [ownChildren, recorded_nil]
  | cons key rest ih =>
    cases fits : key.isChildOf n.key with
    | false => simp [ownChildren, fits]
    | true =>
      have step : a.ownChildren arena n owners (key :: rest) =
          a.own arena owners key n.key.render >>= (a.ownChildren arena n · rest) := by
        simp [ownChildren, fits]
      have parts : (key :: rest).map (·, n.key.render) =
          [(key, n.key.render)] ++ rest.map (·, n.key.render) := rfl
      simp only [step, bind_eq_ok, own_eq_ok, ih, List.forall_mem_cons, fits, true_and, parts,
        ← recorded_append]
      constructor
      · rintro ⟨middle, first, others, second⟩
        exact ⟨others, middle, first, second⟩
      · rintro ⟨others, middle, first, second⟩
        exact ⟨middle, first, others, second⟩

theorem ownNodes_eq_ok {nodes : List Node} :
    a.ownNodes arena owners nodes = .ok after ↔
      (∀ n ∈ nodes, ∀ key ∈ n.body.holes, key.isChildOf n.key = true) ∧
        Recorded arena owners (nodes.flatMap fun n => n.body.holes.map (·, n.key.render)) after := by
  induction nodes generalizing owners with
  | nil => simp [ownNodes, recorded_nil]
  | cons n rest ih =>
    simp only [ownNodes, bind_eq_ok, ownChildren_eq_ok, ih, List.forall_mem_cons, List.flatMap_cons,
      ← recorded_append]
    constructor
    · rintro ⟨middle, ⟨own, first⟩, others, second⟩
      exact ⟨⟨own, others⟩, middle, first, second⟩
    · rintro ⟨⟨own, others⟩, middle, first, second⟩
      exact ⟨middle, ⟨own, first⟩, others, second⟩

/-- Without an arena, there are no nodes that a hole could name. -/
theorem validate_of_none (missing : a.arena = none) :
    a.validate = .ok () ↔ a.preamble.holes = [] := by
  cases held : a.preamble.holes with
  | nil => simp [validate, missing, held]
  | cons key rest => simp [validate, missing, held]

/-- The holes of a method with what holds each of them. -/
def held (a : Analysis) (arena : Arena) : Owners :=
  a.preamble.holes.map (·, Text.ofString "preamble") ++
    arena.nodes.flatMap fun n => n.body.holes.map (·, n.key.render)

theorem validate_of_some (registered : a.arena = some arena) :
    a.validate = .ok () ↔
      (∀ n ∈ arena.nodes, ∀ key ∈ n.body.holes, key.isChildOf n.key = true) ∧
        ∃ after, Recorded arena [] (a.held arena) after := by
  simp only [validate, registered, bind_eq_ok, ownTopLevel_eq_ok, ownNodes_eq_ok, held,
    ← recorded_append]
  constructor
  · rintro ⟨owners, first, after, ⟨deeper, second⟩, -⟩
    exact ⟨deeper, after, owners, first, second⟩
  · rintro ⟨deeper, after, owners, first, second⟩
    exact ⟨owners, first, after, ⟨deeper, second⟩, rfl⟩

/-- Validation decides whether holes and nodes fit together. -/
theorem validate_eq_ok : a.validate = .ok () ↔ a.Fits := by
  cases registered : a.arena with
  | none =>
    have absent : a.nodes = [] := by simp [nodes, registered, Arena.nodes, Arena.empty]
    rw [validate_of_none registered]
    constructor
    · intro free
      have empty : a.holes = [] := by simp [holes, free, absent]
      exact ⟨by simp [empty], by simp [empty], by simp [absent]⟩
    · intro fits
      refine List.eq_nil_iff_forall_not_mem.mpr fun key member => ?_
      have there := fits.there key (List.mem_append_left _ member)
      simp [registered, Arena.keys, Arena.empty] at there
  | some arena =>
    have listed : a.nodes = arena.nodes := by simp [nodes, registered]
    have named : (a.held arena).map Prod.fst = a.holes := by
      simp [held, holes, listed, List.map_flatMap, Function.comp_def]
    rw [validate_of_some registered]
    constructor
    · rintro ⟨deeper, after, recorded⟩
      refine ⟨?_, ?_, ?_⟩
      · simpa [registered, named] using recorded.there
      · simpa [named] using recorded.single
      · simpa [listed] using deeper
    · rintro ⟨there, single, deeper⟩
      refine ⟨?_, _, ?_, ?_, by simp, rfl⟩
      · simpa [listed] using deeper
      · simpa [registered, named] using there
      · simpa [named] using single

end Analysis

/-! ### Rendering what fits together -/

namespace Loop

/-- Some keys can be rendered one after the other: together with the holes of the nodes still there,
they name nodes that are there and not handed out, each of them once. -/
structure Ready (a : Arena) (pending : List Key) : Prop where
  distinct : a.keys.Nodup
  unclaimed : ∀ key ∈ a.keys, key ∉ a.claimed
  there : ∀ key ∈ pending ++ a.slots.flatMap (fun n => n.body.holes), key ∈ a.keys
  single : (pending ++ a.slots.flatMap fun n => n.body.holes).Nodup
  deeper : ∀ n ∈ a.slots, ∀ key ∈ n.body.holes, key.isChildOf n.key = true

variable {a : Arena} {key : Key}

/-- The nodes are one of them and those that are left when it is handed out. -/
theorem slots_perm {n : Node} (distinct : a.keys.Nodup) (present : n ∈ a.slots) :
    a.slots.Perm (n :: (a.without [n.key]).slots) := by
  have apart : n ∉ (a.without [n.key]).slots :=
    fun again => (Arena.mem_slots_without.mp again).2 (by simp)
  have remaining : (a.without [n.key]).slots.Nodup := (Arena.keys_without_nodup distinct).of_map _
  refine (List.perm_ext_iff_of_nodup (distinct.of_map _) (remaining.cons apart)).mpr ?_
  intro m
  rw [List.mem_cons, Arena.mem_slots_without]
  constructor
  · intro member
    by_cases same : m.key = n.key
    · exact .inl (Arena.eq_of_key_eq distinct member present same)
    · exact .inr ⟨member, by simpa using same⟩
  · rintro (rfl | ⟨member, -⟩)
    · exact present
    · exact member

/-- The first of the pending keys can be handed out; the holes of its node take its place. -/
theorem Ready.claim {rest : List Key} (ready : Ready a (key :: rest)) :
    ∃ n, a.claim key = .ok (n, a.without [key]) ∧
      (∀ child ∈ n.body.holes, child.isChildOf n.key = true) ∧
        Ready (a.without [key]) (n.body.holes ++ rest) := by
  obtain ⟨n, present, rfl⟩ := Arena.mem_keys_iff.mp (ready.there key (by simp))
  have free := ready.unclaimed n.key (ready.there n.key (by simp))
  have order : ((n.key :: rest) ++ a.slots.flatMap fun m => m.body.holes).Perm
      (n.key :: ((n.body.holes ++ rest) ++
        (a.without [n.key]).slots.flatMap fun m => m.body.holes)) := by
    have nodes := (slots_perm ready.distinct present).flatMap_right fun m => m.body.holes
    rw [List.flatMap_cons] at nodes
    refine ((nodes.append_left rest).trans ?_).cons _
    rw [← List.append_assoc]
    exact List.perm_append_comm.append_right _
  obtain ⟨own, single⟩ := List.nodup_cons.mp (order.nodup_iff.mp ready.single)
  refine ⟨n, Arena.claim_of_mem ready.distinct present free, ready.deeper n present, ?_⟩
  refine ⟨Arena.keys_without_nodup ready.distinct, ?_, ?_, single, ?_⟩
  · intro other member
    obtain ⟨known, apart⟩ := Arena.mem_keys_without.mp member
    simpa [Arena.without, not_or] using ⟨by simpa using apart, ready.unclaimed other known⟩
  · intro other member
    refine Arena.mem_keys_without.mpr ⟨ready.there other ?_, ?_⟩
    · exact order.mem_iff.mpr (List.mem_cons_of_mem _ member)
    · rw [List.mem_singleton]
      rintro rfl
      exact own member
  · intro m member
    exact ready.deeper m (Arena.mem_slots_without.mp member).1

/-- What is ready renders, and leaves the keys after it ready. -/
theorem exists_rendering (o : LoopOptions) (above : Option Key) (a : Arena) (segments : Template)
    (later : List Key) (ready : Ready a (segments.holes ++ later))
    (fits : ∀ p ∈ above, ∀ key ∈ segments.holes, key.isChildOf p = true) :
    ∃ pieces met b, Rendering o above a segments pieces met b ∧ Ready b later ∧ b.size ≤ a.size := by
  match segments with
  | [] => exact ⟨[], [], a, .nil, ready, Nat.le_refl _⟩
  | .text source :: rest =>
    obtain ⟨pieces, met, b, rendering, done, size⟩ :=
      exists_rendering o above a rest later ready fits
    exact ⟨_, met, b, .text rendering, done, size⟩
  | .hole key :: rest =>
    obtain ⟨n, taken, deeper, next⟩ := ready.claim
    have fewer := Arena.size_claim_lt taken
    obtain ⟨inner, within, middle, inside, following, small⟩ :=
      exists_rendering o (some n.key) (a.without [key]) n.body (Template.holes rest ++ later)
        next (by simpa using deeper)
    obtain ⟨pieces, met, b, rendering, done, size⟩ :=
      exists_rendering o above middle rest later following
        fun p owner child member => fits p owner child (List.mem_cons_of_mem _ member)
    refine ⟨_, _, b, .loop ?_ taken inside rendering, done, by omega⟩
    exact fun p owner => fits p owner key List.mem_cons_self
termination_by (a.size, segments.length)

end Loop

namespace Analysis

variable {a : Analysis}

theorem Fits.ready (fits : a.Fits) (formed : (a.arena.getD .empty).WellFormed) :
    Loop.Ready (a.arena.getD .empty).clone a.preamble.holes := by
  have clone : (a.arena.getD .empty).clone = .ofNodes a.nodes := Arena.clone_eq _
  have keys : (a.arena.getD .empty).keys = a.nodes.map Node.key := by
    rw [nodes, formed.nodes_eq]
    rfl
  have distinct := formed.keys_nodup
  have there := fits.there
  rw [keys] at distinct there
  rw [clone]
  exact ⟨distinct, by simp [Arena.ofNodes], there, fits.single, fits.deeper⟩

/-- A method that passes validation has a unit, whatever its arena went through before. Its preamble
renders out of a clone of the arena, the keys whose loops are met are those that it leads to, each of
them once, and no other node is taken. -/
theorem renders_of_validate (a : Analysis) (options : UnitOptions) (valid : a.system.isValid = true)
    (built : ∀ arena ∈ a.arena, arena.Built) (validated : a.validate = .ok ()) :
    ∃ parts warnings pieces met left,
      Assembly.ofAnalysis a options = .ok (parts, warnings) ∧
      Assembly.renderPreamble (Assembly.loopOptions a options) (a.arena.getD .empty).clone a.preamble
        = (.ok (pieces.map Loop.Rendered.text), left) ∧
      Loop.Rendering (Assembly.loopOptions a options) none (a.arena.getD .empty).clone a.preamble
        pieces met left ∧
      met.Nodup ∧ (∀ key, key ∈ met ↔ Loop.Reaches a.nodes a.preamble.holes key) ∧
      left.claimed = met.reverse ∧ left.slots = a.nodes.filter fun n => n.key ∉ met := by
  have formed : (a.arena.getD .empty).WellFormed := by
    cases registered : a.arena with
    | none => exact Arena.empty_wellFormed
    | some arena => exact (built arena registered).wellFormed
  have ready := (validate_eq_ok.mp validated).ready formed
  obtain ⟨pieces, met, left, rendering, -, -⟩ :=
    Loop.exists_rendering (Assembly.loopOptions a options) none _ a.preamble []
      (by simpa using ready) (by simp)
  obtain ⟨parts, assembled, -⟩ := Assembly.ofAnalysis_of_rendering valid rendering
  refine ⟨parts, _, pieces, met, left, assembled, rendering.preamble_eq, rendering,
    rendering.met_nodup.1, ?_, ?_, ?_⟩
  · exact fun key => rendering.mem_met_iff ready.distinct
  · rw [rendering.left_eq]
    simp [Arena.without, Arena.clone]
  · rw [rendering.left_eq]
    simp [Arena.without, Arena.clone, nodes]

/-- A loop at the greatest depth, a child of it at depth zero, a node to be handed out beforehand, and
one that no hole leads to. -/
def wrappingNodes : List Node :=
  [{ key := ⟨18446744073709551615, 0⟩, body := [.text "first()", .hole ⟨0, 1⟩] },
    { key := ⟨0, 1⟩, body := [.text "second()"] }, { key := ⟨0, 2⟩ }, { key := ⟨5, 3⟩ }]

def wrapping : Analysis :=
  { system := "Motion"
    preamble := [.hole ⟨18446744073709551615, 0⟩, .text "done()"]
    arena := ((Arena.ofNodes wrappingNodes).claim ⟨0, 2⟩).toOption.map Prod.snd }

theorem renders_of_validate_wrapping :
    wrapping.validate = .ok () ∧ (∀ arena ∈ wrapping.arena, arena.Built) ∧
      ∃ parts warnings, Assembly.ofAnalysis wrapping {} = .ok (parts, warnings) ∧
        ∃ met : List Key, met.Nodup ∧
          ∀ key, key ∈ met ↔ Loop.Reaches wrapping.nodes [⟨18446744073709551615, 0⟩] key := by
  have validated : wrapping.validate = .ok () := rfl
  have built : ∀ arena ∈ wrapping.arena, arena.Built := by
    have distinct : (wrappingNodes.map Node.key).Nodup := by decide
    obtain ⟨gone, left, taken, same⟩ : ∃ gone left,
        (Arena.ofNodes wrappingNodes).claim ⟨0, 2⟩ = .ok (gone, left) ∧ wrapping.arena = some left :=
      ⟨_, _, rfl, rfl⟩
    rw [same]
    rintro arena ⟨⟩
    exact .claim (Arena.built_ofNodes distinct) taken
  obtain ⟨parts, warnings, -, met, -, assembled, -, -, single, reached, -⟩ :=
    renders_of_validate wrapping {} (by decide) built validated
  exact ⟨validated, built, parts, warnings, assembled, met, single, reached⟩

end Analysis

end SystemLoops
