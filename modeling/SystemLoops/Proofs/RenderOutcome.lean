import SystemLoops.Proofs.ArenaLife
import SystemLoops.Proofs.Unfolding

/-!
How renderings end. An arena may hold any nodes, with holes that name missing, shared or cyclic keys, and
may have handed some out before. Rendering a key goes through the holes as a pass does. Main statement:
it succeeds exactly when the holes unfold without a flaw, and otherwise reports the first flaw; either way
the keys taken out of the arena are those met, or those met before the flaw.
-/

namespace SystemLoops

namespace Arena

variable {a : Arena} {key : Key} {entered met : List Key}

theorem claimed_without : (a.without met).claimed = met.reverse ++ a.claimed :=
  rfl

theorem claimed_without_append (a : Arena) (entered met : List Key) :
    (a.without (entered ++ met)).claimed = met.reverse ++ (a.without entered).claimed := by
  rw [claimed_without, claimed_without, List.reverse_append, List.append_assoc]

theorem size_without_le (a : Arena) (entered met : List Key) :
    (a.without (entered ++ met)).size ≤ (a.without entered).size := by
  rw [← without_without]
  exact List.length_filter_le _ _

theorem nodes_without (a : Arena) (met : List Key) :
    (a.without met).nodes = a.nodes.filter fun n => n.key ∉ met := by
  rw [nodes, nodes, List.filter_filterMap]
  refine List.filterMap_congr fun key _ => ?_
  have same : (a.lookup? key).filter (fun n => n.key ∉ met) =
      if key ∈ met then none else a.lookup? key := by
    cases found : a.lookup? key with
    | none => simp
    | some n => simp [Option.filter, key_of_lookup found]
  rw [same]
  split
  · rename_i taken
    exact lookup_without_of_mem taken
  · rename_i kept
    exact lookup_without kept

theorem size_without (distinct : a.keys.Nodup) (single : met.Nodup) (present : ∀ k ∈ met, k ∈ a.keys) :
    (a.without met).size + met.length = a.size := by
  have handedOut : (a.keys.filter (met.contains ·)).Perm met := by
    refine (List.perm_ext_iff_of_nodup (distinct.filter _) single).mpr fun k => ?_
    simpa using present k
  have kept : (a.without met).keys = a.keys.filter fun k => !met.contains k := by
    simp [keys, without, List.filter_map, Function.comp_def]
  calc (a.without met).size + met.length
      = (a.keys.filter fun k => !met.contains k).length + (a.keys.filter (met.contains ·)).length := by
        rw [← kept, handedOut.length_eq, keys, List.length_map, size]
    _ = a.keys.length := by rw [Nat.add_comm, ← List.length_eq_length_filter_add]
    _ = a.size := List.length_map _

/-- A node that was there is handed out unless its key was taken before. -/
theorem claim_without_cases (a : Arena) (entered : List Key) (key : Key) :
    (key ∈ (a.without entered).claimed ∧
      (a.without entered).claim key = .error (.refused .alreadyClaimed key)) ∨
    (key ∉ (a.without entered).claimed ∧ a.lookup? key = none ∧
      (a.without entered).claim key = .error (.refused .unknownNode key)) ∨
    ∃ n, key ∉ (a.without entered).claimed ∧ a.lookup? key = some n ∧
      (a.without entered).claim key = .ok (n, a.without (entered ++ [key])) := by
  by_cases gone : key ∈ (a.without entered).claimed
  · exact .inl ⟨gone, claim_eq_alreadyClaimed_iff.mpr gone⟩
  · have kept : key ∉ entered := by
      intro again
      exact gone (List.mem_append_left _ (List.mem_reverse.mpr again))
    have same : (a.without entered).lookup? key = a.lookup? key := lookup_without kept
    cases found : a.lookup? key with
    | none =>
      have absent : key ∉ (a.without entered).keys := by
        rw [← lookup_isSome_iff, same, found]
        simp
      exact .inr (.inl ⟨gone, rfl, claim_eq_unknownNode_iff.mpr ⟨gone, absent⟩⟩)
    | some n =>
      obtain ⟨left, taken⟩ := exists_claim_iff.mpr ⟨gone, same.trans found⟩
      refine .inr (.inr ⟨n, gone, rfl, ?_⟩)
      rw [taken, eq_without_of_claim taken, without_without]

end Arena

namespace Loop

/-- A rendering ended as a pass did: it took the keys that the pass entered, and failed exactly when the
pass failed, with what becomes of the failure as the nodes around report it. -/
structure Follows (a : Arena) (entered above met : List Key) (failure : Option Failure)
    (result : Except Failure α × Arena) : Prop where
  left : result.2 = a.without (entered ++ met)
  finished : failure = none → ∃ value, result.1 = .ok value
  failed : ∀ f ∈ failure, ∃ g, result.1 = .error g ∧ toldBy above g = f

variable {find : Key → Option Node} {above claimed others met more : List Key} {key parent : Key}
  {a : Arena} {stop : Option (Position × Failure)} {last : Position × Failure} {f : Failure}

/-! ### Passes through one key and then others -/

theorem Pass.cons (first : Pass find above claimed [key] met none)
    (rest : Pass find above (met.reverse ++ claimed) others more stop) :
    Pass find above claimed (key :: others) (met ++ more) (stop.map advance) := by
  generalize ended : (none : Option (Position × Failure)) = last at first
  cases first with
  | stuck | within => cases ended
  | past clear inside nothing =>
    cases nothing with
    | done =>
      rw [List.append_nil] at rest ⊢
      exact .past clear inside rest

theorem Pass.cons_stopped (first : Pass find above claimed [key] met (some last)) :
    Pass find above claimed (key :: others) met (some last) := by
  generalize ended : some last = stop at first ⊢
  cases first with
  | stuck flaw => exact .stuck flaw
  | within clear inside => exact .within clear inside
  | past _ _ nothing =>
    cases nothing with
    | done => cases ended

theorem snd_advance : (stop.map advance).map Prod.snd = stop.map Prod.snd := by
  rw [Option.map_map]
  congr 1
  funext last
  match last with
  | ([], _) => rfl
  | (_ :: _, _) => rfl

/-! ### Renderings follow passes -/

namespace Follows

variable {entered : List Key} {failure : Option Failure} {result : Except Failure α × Arena}

theorem map (follows : Follows a entered above met failure result) (g : α → β) :
    Follows a entered above met failure (result.map (Except.map g) id) := by
  refine ⟨follows.left, ?_, ?_⟩
  · intro through
    obtain ⟨value, succeeded⟩ := follows.finished through
    exact ⟨g value, by simp [succeeded, Except.map]⟩
  · intro f stopped
    obtain ⟨h, failed, told⟩ := follows.failed f stopped
    exact ⟨h, by simp [failed, Except.map], told⟩

/-- What follows a later pass has taken the keys of the earlier one as well. -/
theorem after (follows : Follows a (entered ++ met) above more failure result) :
    Follows a entered above (met ++ more) failure result :=
  ⟨by rw [follows.left, List.append_assoc], follows.finished, follows.failed⟩

theorem refused (f : Failure) :
    Follows a entered above [] (some (toldBy above f))
      ((.error f, a.without entered) : Except Failure α × Arena) :=
  ⟨by rw [List.append_nil], by simp, by simp⟩

end Follows

/-- Rendering the loop of a key that fits follows a pass when rendering its body does. -/
theorem exists_turn (o : LoopOptions) (a : Arena) (entered above : List Key) (key : Key)
    (fits : Fits above key)
    (inner : ∀ n, (a.without entered).claim key = .ok (n, a.without (entered ++ [key])) →
      ∃ met stop, Pass a.lookup? (n.key :: above) (a.without (entered ++ [key])).claimed n.body.holes
          met stop ∧
        Follows a (entered ++ [key]) above met (stop.map Prod.snd)
          (renderSegments o n.key (a.without (entered ++ [key])) n.body).result) :
    ∃ met stop, Pass a.lookup? above (a.without entered).claimed [key] met stop ∧
      Follows a entered above met (stop.map Prod.snd) (renderNode o (a.without entered) key).result := by
  rcases a.claim_without_cases entered key with
    ⟨gone, refused⟩ | ⟨fresh, absent, refused⟩ | ⟨n, fresh, found, taken⟩
  · rw [renderNode_refused refused]
    exact ⟨[], _, .stuck (.claimed fits gone), .refused _⟩
  · rw [renderNode_refused refused]
    exact ⟨[], _, .stuck (.unknown fits fresh absent), .refused _⟩
  · obtain ⟨met, stop, pass, follows⟩ := inner n taken
    have clear : Clear a.lookup? above (a.without entered).claimed key n := ⟨fits, fresh, found⟩
    rw [a.claimed_without_append, Arena.key_of_lookup found] at pass
    rw [renderNode_taken taken]
    have ended := (follows.map (around o n)).after
    match stop with
    | none => exact ⟨_, none, .past clear pass .done, by simpa using ended⟩
    | some (p, f) => exact ⟨_, _, .within clear pass, ended⟩

/-- Rendering the pieces of a body follows a pass through its holes. The first induction is on how many
nodes are left, since only entering a node takes one away; the second is on the pieces. -/
theorem exists_pass (o : LoopOptions) (a : Arena) (bound : Nat) :
    ∀ (entered : List Key) (parent : Key) (outer : List Key) (segments : Template),
      (a.without entered).size ≤ bound → ∃ met stop,
        Pass a.lookup? (parent :: outer) (a.without entered).claimed segments.holes met stop ∧
        Follows a entered outer met (stop.map Prod.snd)
          (renderSegments o parent (a.without entered) segments).result := by
  induction bound using Nat.strong_induction_on with
  | _ bound ih =>
    intro entered parent outer segments within
    induction segments generalizing entered with
    | nil =>
      rw [renderSegments_nil]
      exact ⟨[], none, .done, by rw [List.append_nil], fun _ => ⟨[], rfl⟩, by simp⟩
    | cons segment rest ihRest =>
      cases segment with
      | text source =>
        obtain ⟨met, stop, pass, follows⟩ := ihRest entered within
        rw [renderSegments_text]
        exact ⟨met, stop, pass, follows.map _⟩
      | hole key =>
        rw [renderSegments_hole]
        by_cases fits : key.isChildOf parent = true
        · obtain ⟨met, stop, pass, follows⟩ :=
            exists_turn o a entered (parent :: outer) key (by simpa [Fits] using fits) fun n taken =>
              have fewer := Nat.lt_of_lt_of_le (Arena.size_claim_lt taken) within
              ih _ fewer (entered ++ [key]) n.key (parent :: outer) n.body (Nat.le_refl _)
          rw [if_pos fits]
          generalize (renderNode o (a.without entered) key).result = result at follows ⊢
          obtain ⟨outcome, left⟩ := result
          obtain rfl : left = a.without (entered ++ met) := follows.left
          cases stop with
          | none =>
            obtain ⟨piece, rfl⟩ := follows.finished rfl
            obtain ⟨more, stop, passed, followed⟩ :=
              ihRest (entered ++ met) (Nat.le_trans (a.size_without_le entered met) within)
            rw [a.claimed_without_append] at passed
            refine ⟨_, _, pass.cons passed, ?_⟩
            rw [snd_advance]
            exact (followed.map _).after
          | some last =>
            obtain ⟨g, rfl, told⟩ := follows.failed last.2 rfl
            exact ⟨met, _, pass.cons_stopped, rfl, by simp, by simpa [toldBy] using told⟩
        · rw [if_neg fits]
          exact ⟨[], _, .stuck (.depth (by simpa using fits)), by rw [List.append_nil], by simp, by simp⟩

/-! ### Renderings of a key -/

/-- What the holes below a key of an arena lead to. -/
def unfolding (a : Arena) (key : Key) : Position → Option (List Key) :=
  trail a.lookup? [] key

/-- Unfolding the holes from a key meets registered keys only, none of them handed out and each of them
once, and every hole is one level deeper than its parent, wrapping around. -/
structure Sound (a : Arena) (key : Key) : Prop where
  there : ∀ p k, Meets (unfolding a key) p k → k ∈ a.order ∧ k ∉ a.claimed
  once : ∀ p q k, Meets (unfolding a key) p k → Meets (unfolding a key) q k → p = q
  deeper : ∀ p child parent outer, unfolding a key p = some (child :: parent :: outer) →
    child.depth = parent.depth + 1

/-- The first flaw of an unfolding, and where it is. -/
structure FirstFlaw (a : Arena) (key : Key) (p : Position) (f : Failure) : Prop where
  here : FlawAt a.lookup? a.claimed (unfolding a key) p f
  before : ∀ q < p, ∀ g, ¬ FlawAt a.lookup? a.claimed (unfolding a key) q g

theorem sound_iff (formed : a.WellFormed) :
    Sound a key ↔ ∀ p f, ¬ FlawAt a.lookup? a.claimed (unfolding a key) p f := by
  constructor
  · rintro sound p f ⟨keys, here, flaw⟩
    cases flaw with
    | depth wrong => exact absurd (sound.deeper _ _ _ _ here) (by simpa [Key.isChildOf] using wrong)
    | claimed _ before =>
      rcases before with handedOut | ⟨q, earlier, again⟩
      · exact (sound.there _ _ ⟨_, here⟩).2 handedOut
      · rw [sound.once _ _ _ again ⟨_, here⟩] at earlier
        exact List.lt_irrefl _ earlier
    | unknown _ _ absent =>
      have present := Arena.lookup_isSome_iff.mpr (formed.mem_keys.mpr (sound.there _ _ ⟨_, here⟩))
      simp [absent] at present
  · intro flawless
    have unflawed : ∀ p k above, unfolding a key p = some (k :: above) →
        Fits above k ∧ ¬ Gone a.claimed (unfolding a key) p k ∧ a.lookup? k ≠ none := by
      intro p k above here
      have none := mt exists_flaw_iff.mpr fun ⟨f, flaw⟩ => flawless p f ⟨_, here, flaw⟩
      simpa only [not_or, not_not] using none
    refine ⟨?_, ?_, ?_⟩
    · rintro p k ⟨above, here⟩
      have present := Arena.lookup_isSome_iff.mp (Option.isSome_iff_ne_none.mpr (unflawed p k above here).2.2)
      exact formed.mem_keys.mp present
    · rintro p q k ⟨above, here⟩ ⟨around, again⟩
      rcases lt_trichotomy p q with earlier | same | later
      · exact absurd (.inr ⟨p, earlier, above, here⟩) (unflawed q k around again).2.1
      · exact same
      · exact absurd (.inr ⟨q, later, around, again⟩) (unflawed p k above here).2.1
    · intro p child parent outer here
      simpa [Fits, Key.isChildOf] using (unflawed p child _ here).1

/-- Rendering a key ends as exploring its unfolding does. -/
theorem exists_explored (o : LoopOptions) (a : Arena) (key : Key) :
    ∃ met stop, (met.Nodup ∧ ∀ k ∈ met, k ∉ a.claimed ∧ (a.lookup? k).isSome) ∧
      Explored a.lookup? a.claimed (unfolding a key) met stop ∧
      Follows a [] [] met (stop.map Prod.snd) (render o a key) := by
  obtain ⟨met, stop, pass, follows⟩ := exists_turn o a [] [] key (by simp [Fits])
    fun n _ => exists_pass o a _ [key] n.key [] n.body (Nat.le_refl _)
  rw [Arena.without_nil] at pass follows
  obtain ⟨last, same, explored⟩ := pass.explored_single
  refine ⟨met, last, pass.entered, explored, ?_⟩
  rw [render_eq, ← same]
  exact follows.map _

/-- However the nodes of an arena lead to each other, rendering a key of it ends. It succeeds exactly when
the unfolding from the key is sound, and has then taken out the nodes of the keys met; otherwise it reports
the first flaw, and has taken out those met before. All other nodes stay, in their order. -/
theorem render_outcome (built : a.Built) (o : LoopOptions) (key : Key) :
    ((∃ text, (render o a key).1 = .ok text) ↔ Sound a key) ∧
    ∃ met : List Key, met.Nodup ∧ (∀ k ∈ met, k ∈ a.order ∧ k ∉ a.claimed) ∧
      (render o a key).2.claimed = met.reverse ++ a.claimed ∧
      (render o a key).2.nodes = a.nodes.filter (fun n => n.key ∉ met) ∧
      (render o a key).2.size + met.length = a.size ∧
      ((∃ text, (render o a key).1 = .ok text) → ∀ k, k ∈ met ↔ ∃ p, Meets (unfolding a key) p k) ∧
      ∀ f, (render o a key).1 = .error f → ∃ p, FirstFlaw a key p f ∧
        ∀ k, k ∈ met ↔ ∃ q < p, Meets (unfolding a key) q k := by
  have formed := built.wellFormed
  obtain ⟨met, stop, ⟨single, taken⟩, explored, follows⟩ := exists_explored o a key
  have left : (render o a key).2 = a.without met := follows.left
  have present : ∀ k ∈ met, k ∈ a.keys := fun k member =>
    Arena.lookup_isSome_iff.mp (taken k member).2
  have known : ∀ k ∈ met, k ∈ a.order ∧ k ∉ a.claimed := fun k member =>
    formed.mem_keys.mp (present k member)
  have size := Arena.size_without formed.keys_nodup single present
  rw [sound_iff formed, left]
  match stop with
  | none =>
    obtain ⟨text, succeeded⟩ := follows.finished rfl
    rw [succeeded]
    refine ⟨iff_of_true ⟨text, rfl⟩ fun p => explored.clear p reached_none, met, single, known, rfl,
      a.nodes_without met, size, fun _ k => ?_, nofun⟩
    simpa [reached_none] using explored.mem_met k
  | some (p, f) =>
    obtain ⟨g, failed, rfl⟩ := follows.failed f rfl
    have flaw := explored.flawed _ rfl
    rw [failed]
    refine ⟨iff_of_false (by simp) fun flawless => flawless _ _ flaw, met, single, known, rfl,
      a.nodes_without met, size, by simp, ?_⟩
    rintro _ ⟨⟩
    exact ⟨p, ⟨flaw, fun q earlier => explored.clear q (reached_some.mpr earlier)⟩,
      fun k => by simpa [reached_some] using explored.mem_met k⟩

/-- Two nodes share a child, and another child was handed out before. -/
def tangledNodes : List Node :=
  [{ key := ⟨0, 0⟩, body := [.hole ⟨1, 1⟩, .text "between()", .hole ⟨1, 2⟩, .hole ⟨1, 4⟩] },
    { key := ⟨1, 1⟩, body := [.hole ⟨2, 3⟩] }, { key := ⟨1, 2⟩, body := [.hole ⟨2, 3⟩] },
    { key := ⟨2, 3⟩, body := [.text "shared()"] }, { key := ⟨1, 4⟩ }]

def tangled : Arena :=
  (Arena.ofNodes tangledNodes).without [⟨1, 4⟩]

/-- The second way to the shared child is a flaw, so rendering does not come to the child handed out. -/
theorem render_outcome_tangled :
    tangled.Built ∧ ¬ Sound tangled ⟨0, 0⟩ ∧
      ∃ p f, (render {} tangled ⟨0, 0⟩).1 = .error f ∧ FirstFlaw tangled ⟨0, 0⟩ p f ∧ p ≤ [1, 0] ∧
        ∃ met : List Key, (render {} tangled ⟨0, 0⟩).2.claimed = met.reverse ++ [⟨1, 4⟩] ∧
          ∀ k, k ∈ met ↔ ∃ q < p, Meets (unfolding tangled ⟨0, 0⟩) q k := by
  have built : tangled.Built := by
    have distinct : (tangledNodes.map Node.key).Nodup := by decide
    exact .claim (Arena.built_ofNodes distinct)
      (Arena.claim_of_mem (n := { key := ⟨1, 4⟩ }) distinct (by decide) (by decide))
  have once : unfolding tangled ⟨0, 0⟩ [0, 0] = some [⟨2, 3⟩, ⟨1, 1⟩, ⟨0, 0⟩] := rfl
  have again : unfolding tangled ⟨0, 0⟩ [1, 0] = some [⟨2, 3⟩, ⟨1, 2⟩, ⟨0, 0⟩] := rfl
  have unsound : ¬ Sound tangled ⟨0, 0⟩ := fun sound => by
    cases sound.once _ _ _ ⟨_, once⟩ ⟨_, again⟩
  obtain ⟨succeeds, met, -, -, claimed, -, -, -, stopped⟩ := render_outcome built {} ⟨0, 0⟩
  cases outcome : (render {} tangled ⟨0, 0⟩).1 with
  | ok text => exact absurd (succeeds.mp ⟨text, outcome⟩) unsound
  | error f =>
    obtain ⟨p, first, entered⟩ := stopped f outcome
    refine ⟨built, unsound, p, f, rfl, first, ?_, met, claimed, entered⟩
    refine not_lt.mp fun later => first.before _ later _ ⟨_, again, .claimed ?_ (.inr ?_)⟩
    · simp [Fits, Key.isChildOf]
    · exact ⟨[0, 0], by decide, _, once⟩

end Loop

end SystemLoops
