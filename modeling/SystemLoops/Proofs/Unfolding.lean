import Mathlib.Data.List.Lex
import SystemLoops.Proofs.Rendering

/-!
Unfolding holes. The holes of the node under a key lead to further keys, and so on, whatever the nodes
look like: a key may be missing, come up twice or lead back to itself. A position says which hole to
follow at each level; positions are ordered as a reader comes to them. Main statement: a pass that goes
through the holes in that order, remembering the keys it entered, stops at the first flaw, having entered
exactly the keys before it.
-/

namespace SystemLoops.Loop

/-- Which hole is followed at each level, from the outside in. In the order of lists a node comes before
its holes, and everything in a hole before the next hole. -/
abbrev Position := List Nat

/-- The keys on the way to a position below a key, the last first, then those that the key is under. -/
def trail (find : Key → Option Node) (above : List Key) (key : Key) : Position → Option (List Key)
  | [] => some (key :: above)
  | i :: p =>
    match find key with
    | none => none
    | some n =>
      match n.body.holes[i]? with
      | none => none
      | some child => trail find (key :: above) child p

/-- The keys on the way to a position below one of several keys; the first number says which. -/
def trailAmong (find : Key → Option Node) (above keys : List Key) : Position → Option (List Key)
  | [] => none
  | i :: p =>
    match keys[i]? with
    | none => none
    | some key => trail find above key p

def Meets (led : Position → Option (List Key)) (p : Position) (key : Key) : Prop :=
  ∃ above, led p = some (key :: above)

/-- A key is gone when a position is reached: it was so before, or it is met earlier. -/
def Gone (claimed : List Key) (led : Position → Option (List Key)) (p : Position) (key : Key) : Prop :=
  key ∈ claimed ∨ ∃ q < p, Meets led q key

/-- A failure as the nodes around it report it, from the inside out. -/
def toldBy (above : List Key) (f : Failure) : Failure :=
  above.foldl (fun f parent => .around ("node " ++ parent.render ++ ": ") f []) f

/-- A key is one level deeper than the node that holds it, if any. -/
def Fits (above : List Key) (key : Key) : Prop :=
  ∀ parent ∈ above.head?, key.isChildOf parent = true

/-- What is wrong with the first of some keys under the others. Its depth is looked at first. -/
inductive Flaw (find : Key → Option Node) (gone : Key → Prop) : List Key → Failure → Prop where
  | depth (wrong : key.isChildOf parent = false) :
      Flaw find gone (key :: parent :: outer) (toldBy outer (.plain ("node " ++ parent.render
        ++ ": child " ++ key.render ++ " is not one level deeper")))
  | claimed (fits : Fits above key) (before : gone key) :
      Flaw find gone (key :: above) (toldBy above (.refused .alreadyClaimed key))
  | unknown (fits : Fits above key) (fresh : ¬ gone key) (absent : find key = none) :
      Flaw find gone (key :: above) (toldBy above (.refused .unknownNode key))

def FlawAt (find : Key → Option Node) (claimed : List Key) (led : Position → Option (List Key))
    (p : Position) (f : Failure) : Prop :=
  ∃ keys, led p = some keys ∧ Flaw find (Gone claimed led p) keys f

/-- The place where a pass stopped, seen from the key before the first one. -/
def advance : Position × Failure → Position × Failure
  | ([], f) => ([], f)
  | (i :: p, f) => ((i + 1) :: p, f)

/-- A key can be entered: it fits, is not gone and leads to a node. -/
structure Clear (find : Key → Option Node) (above claimed : List Key) (key : Key) (n : Node) : Prop where
  fits : Fits above key
  fresh : key ∉ claimed
  found : find key = some n

/-- A pass through the holes below some keys, while others are gone. It lists the keys that it enters, and
says at which position it stopped with which failure, if it did. -/
inductive Pass (find : Key → Option Node) :
    (above claimed keys met : List Key) → Option (Position × Failure) → Prop where
  | done : Pass find above claimed [] [] none
  | stuck (flaw : Flaw find (· ∈ claimed) (key :: above) f) :
      Pass find above claimed (key :: others) [] (some ([0], f))
  | within (clear : Clear find above claimed key n)
      (inside : Pass find (key :: above) (key :: claimed) n.body.holes met (some (p, f))) :
      Pass find above claimed (key :: others) (key :: met) (some (0 :: p, f))
  | past (clear : Clear find above claimed key n)
      (inside : Pass find (key :: above) (key :: claimed) n.body.holes within none)
      (rest : Pass find above ((key :: within).reverse ++ claimed) others met stop) :
      Pass find above claimed (key :: others) (key :: (within ++ met)) (stop.map advance)

/-- A position is reached when it comes before the one where a pass stopped, if it did. -/
def Reached (stop : Option (Position × Failure)) (p : Position) : Prop :=
  ∀ last ∈ stop, p < last.1

/-- Nothing is wrong before the end of a pass, what is wrong there is what it failed with, and it entered
exactly the keys before. -/
structure Explored (find : Key → Option Node) (claimed : List Key) (led : Position → Option (List Key))
    (met : List Key) (stop : Option (Position × Failure)) : Prop where
  clear : ∀ p, Reached stop p → ∀ f, ¬ FlawAt find claimed led p f
  flawed : ∀ last ∈ stop, FlawAt find claimed led last.1 last.2
  mem_met : ∀ key, key ∈ met ↔ ∃ p, Reached stop p ∧ Meets led p key

variable {find : Key → Option Node} {above claimed others : List Key} {key : Key} {n : Node}
  {led : Position → Option (List Key)} {p q : Position} {f : Failure} {i : Nat}

/-! ### Positions -/

theorem trail_below (found : find key = some n) :
    trail find above key (i :: p) = trailAmong find (key :: above) n.body.holes (i :: p) := by
  simp only [trail, trailAmong, found]

@[simp]
theorem trailAmong_nil : trailAmong find above [] p = none := by
  cases p <;> rfl

theorem trailAmong_first : trailAmong find above (key :: others) (0 :: p) = trail find above key p :=
  rfl

theorem trailAmong_later :
    trailAmong find above (key :: others) ((i + 1) :: p) = trailAmong find above others (i :: p) :=
  rfl

/-- There is a flaw with a key exactly when it does not fit, is gone or cannot be found. -/
theorem exists_flaw_iff {gone : Key → Prop} :
    (∃ f, Flaw find gone (key :: above) f) ↔ ¬ Fits above key ∨ gone key ∨ find key = none := by
  constructor
  · rintro ⟨f, flaw⟩
    cases flaw with
    | depth wrong =>
      refine .inl fun fits => ?_
      rw [fits _ rfl] at wrong
      cases wrong
    | claimed _ before => exact .inr (.inl before)
    | unknown _ _ absent => exact .inr (.inr absent)
  · intro cause
    by_cases fits : Fits above key
    · by_cases before : gone key
      · exact ⟨_, .claimed fits before⟩
      · exact ⟨_, .unknown fits before (by simpa [fits, before] using cause)⟩
    · cases above with
      | nil => exact absurd (by simp [Fits]) fits
      | cons parent outer => exact ⟨_, .depth (by simpa [Fits] using fits)⟩

theorem Flaw.mono {gone other : Key → Prop} (same : ∀ key, gone key ↔ other key) {keys : List Key}
    (flaw : Flaw find gone keys f) : Flaw find other keys f := by
  cases flaw with
  | depth wrong => exact .depth wrong
  | claimed fits before => exact .claimed fits ((same _).mp before)
  | unknown fits fresh absent => exact .unknown fits (fun before => fresh ((same _).mpr before)) absent

/-- What is wrong at a position is said by the keys on the way and by the keys gone before. -/
theorem flawAt_congr {other : List Key} {told : Position → Option (List Key)} (same : led p = told q)
    (before : ∀ key, Gone claimed led p key ↔ Gone other told q key) :
    FlawAt find claimed led p f ↔ FlawAt find other told q f := by
  constructor
  · rintro ⟨keys, here, flaw⟩
    exact ⟨keys, same ▸ here, flaw.mono before⟩
  · rintro ⟨keys, here, flaw⟩
    exact ⟨keys, same.symm ▸ here, flaw.mono fun key => (before key).symm⟩

/-! ### What is gone -/

theorem gone_inside (found : find key = some n) :
    ∀ k, Gone claimed (trail find above key) (i :: p) k ↔
      Gone (key :: claimed) (trailAmong find (key :: above) n.body.holes) (i :: p) k := by
  intro k
  constructor
  · rintro (before | ⟨q, earlier, outer, here⟩)
    · exact .inl (List.mem_cons_of_mem _ before)
    · cases q with
      | nil =>
        cases here
        exact .inl List.mem_cons_self
      | cons j q => exact .inr ⟨j :: q, earlier, outer, trail_below found ▸ here⟩
  · rintro (before | ⟨q, earlier, outer, here⟩)
    · rcases List.mem_cons.mp before with rfl | before
      · exact .inr ⟨[], List.nil_lt_cons _ _, above, rfl⟩
      · exact .inl before
    · cases q with
      | nil => cases here
      | cons j q => exact .inr ⟨j :: q, earlier, outer, (trail_below found).trans here⟩

/-- What is gone at a position below the first of some keys does not depend on the others. -/
theorem gone_first :
    ∀ k, Gone claimed (trailAmong find above (key :: others)) (0 :: p) k ↔
      Gone claimed (trail find above key) p k := by
  intro k
  refine or_congr_right ⟨?_, ?_⟩
  · rintro ⟨q, earlier, outer, here⟩
    cases q with
    | nil => cases here
    | cons j q =>
      rcases List.cons_lt_cons_iff.mp earlier with smaller | ⟨rfl, before⟩
      · exact absurd smaller (Nat.not_lt_zero j)
      · exact ⟨q, before, outer, here⟩
  · rintro ⟨q, earlier, outer, here⟩
    exact ⟨0 :: q, List.cons_lt_cons_iff.mpr (.inr ⟨rfl, earlier⟩), outer, here⟩

/-- What is gone at a position below a later key: also all that is met below the first. -/
theorem gone_later {within : List Key} (all : ∀ k, k ∈ within ↔ ∃ q, Meets (trail find above key) q k) :
    ∀ k, Gone claimed (trailAmong find above (key :: others)) ((i + 1) :: p) k ↔
      Gone (within.reverse ++ claimed) (trailAmong find above others) (i :: p) k := by
  intro k
  constructor
  · rintro (before | ⟨q, earlier, outer, here⟩)
    · exact .inl (List.mem_append_right _ before)
    · match q with
      | [] => cases here
      | 0 :: q =>
        exact .inl (List.mem_append_left _ (List.mem_reverse.mpr ((all k).mpr ⟨q, outer, here⟩)))
      | (j + 1) :: q =>
        refine .inr ⟨j :: q, ?_, outer, here⟩
        simpa [List.cons_lt_cons_iff] using earlier
  · rintro (before | ⟨q, earlier, outer, here⟩)
    · rcases List.mem_append.mp before with entered | before
      · obtain ⟨q, outer, here⟩ := (all k).mp (List.mem_reverse.mp entered)
        exact .inr ⟨0 :: q, List.cons_lt_cons_iff.mpr (.inl (Nat.succ_pos i)), outer, here⟩
      · exact .inl before
    · cases q with
      | nil => cases here
      | cons j q =>
        refine .inr ⟨(j + 1) :: q, ?_, outer, here⟩
        simpa [List.cons_lt_cons_iff] using earlier

/-! ### Passes -/

theorem flawAt_first (clear : Clear find above claimed key n) :
    FlawAt find claimed (trailAmong find above (key :: others)) (0 :: p) f ↔
      FlawAt find (key :: claimed) (trailAmong find (key :: above) n.body.holes) p f := by
  rw [flawAt_congr trailAmong_first gone_first]
  cases p with
  | nil =>
    constructor
    · rintro ⟨_, ⟨⟩, flaw⟩
      rcases exists_flaw_iff.mp ⟨f, flaw⟩ with unfit | gone | absent
      · exact absurd clear.fits unfit
      · rcases gone with before | ⟨q, earlier, -⟩
        · exact absurd before clear.fresh
        · exact absurd earlier (List.not_lt_nil q)
      · rw [clear.found] at absent
        cases absent
    · rintro ⟨_, ⟨⟩, _⟩
  | cons i p => exact flawAt_congr (trail_below clear.found) (gone_inside clear.found)

theorem flawAt_later {within : List Key}
    (all : ∀ k, k ∈ within ↔ ∃ q, Meets (trail find above key) q k) :
    FlawAt find claimed (trailAmong find above (key :: others)) ((i + 1) :: p) f ↔
      FlawAt find (within.reverse ++ claimed) (trailAmong find above others) (i :: p) f :=
  flawAt_congr trailAmong_later (gone_later all)

theorem exists_meets_iff (above : List Key) (found : find key = some n) (condition : Position → Prop)
    (first : condition []) (k : Key) :
    (∃ q, condition q ∧ Meets (trail find above key) q k) ↔
      k = key ∨ ∃ q, condition q ∧ Meets (trailAmong find (key :: above) n.body.holes) q k := by
  constructor
  · rintro ⟨q, before, outer, here⟩
    cases q with
    | nil =>
      cases here
      exact .inl rfl
    | cons j q => exact .inr ⟨j :: q, before, outer, trail_below found ▸ here⟩
  · rintro (rfl | ⟨q, before, outer, here⟩)
    · exact ⟨[], first, above, rfl⟩
    · cases q with
      | nil => cases here
      | cons j q => exact ⟨j :: q, before, outer, (trail_below found).trans here⟩

theorem reached_none : Reached none p := by
  simp [Reached]

theorem reached_some : Reached (some (q, f)) p ↔ p < q := by
  simp [Reached]

theorem FlawAt.ne_nil {keys : List Key} (flaw : FlawAt find claimed (trailAmong find above keys) p f) :
    p ≠ [] := by
  rintro rfl
  obtain ⟨_, ⟨⟩, _⟩ := flaw

/-- A pass that goes on to further keys comes by everything below the first, and then gets as far as it
gets below the others. -/
theorem reached_advance {stop : Option (Position × Failure)} (inside : ∀ last ∈ stop, last.1 ≠ []) :
    (∀ q, Reached (stop.map advance) (0 :: q)) ∧
      ∀ j q, Reached (stop.map advance) ((j + 1) :: q) ↔ Reached stop (j :: q) := by
  match stop with
  | none => simp [Reached]
  | some ([], f) => exact absurd rfl (inside _ rfl)
  | some (i :: p, f) => simp [Reached, advance, List.cons_lt_cons_iff]

/-- What is met below some keys is met below the first or below the others. -/
theorem exists_among_iff {condition : Position → Prop} {k : Key} :
    (∃ q, condition q ∧ Meets (trailAmong find above (key :: others)) q k) ↔
      (∃ q, condition (0 :: q) ∧ Meets (trail find above key) q k) ∨
        ∃ j q, condition ((j + 1) :: q) ∧ Meets (trailAmong find above others) (j :: q) k := by
  constructor
  · rintro ⟨q, before, here⟩
    match q with
    | [] => obtain ⟨_, ⟨⟩⟩ := here
    | 0 :: q => exact .inl ⟨q, before, here⟩
    | (j + 1) :: q => exact .inr ⟨j, q, before, here⟩
  · rintro (⟨q, before, here⟩ | ⟨j, q, before, here⟩)
    · exact ⟨_, before, here⟩
    · exact ⟨_, before, here⟩

/-- A pass that stops at the first key has entered nothing. -/
theorem Explored.stuck (flaw : Flaw find (· ∈ claimed) (key :: above) f) :
    Explored find claimed (trailAmong find above (key :: others)) [] (some ([0], f)) := by
  have nothing : ∀ q < ([0] : Position), q = [] := by
    intro q earlier
    cases q with
    | nil => rfl
    | cons j q => simp [List.cons_lt_cons_iff] at earlier
  refine ⟨?_, ?_, ?_⟩
  · intro q reached g flaw
    exact flaw.ne_nil (nothing q (reached_some.mp reached))
  · rintro _ ⟨⟩
    refine ⟨key :: above, rfl, flaw.mono fun k => ?_⟩
    constructor
    · exact .inl
    · rintro (before | ⟨q, earlier, outer, here⟩)
      · exact before
      · rw [nothing q earlier] at here
        cases here
  · intro k
    simp only [List.not_mem_nil, false_iff, not_exists]
    rintro q ⟨reached, outer, here⟩
    rw [nothing q (reached_some.mp reached)] at here
    cases here

theorem Explored.within {met : List Key} (clear : Clear find above claimed key n)
    (inside : Explored find (key :: claimed) (trailAmong find (key :: above) n.body.holes) met
      (some (p, f))) :
    Explored find claimed (trailAmong find above (key :: others)) (key :: met) (some (0 :: p, f)) := by
  obtain ⟨quiet, flawed, entered⟩ := inside
  have started : [] < p := by
    obtain ⟨i, rest, rfl⟩ := List.exists_cons_of_ne_nil (flawed _ rfl).ne_nil
    exact List.nil_lt_cons i rest
  refine ⟨?_, ?_, ?_⟩
  · intro q reached g flaw
    match q with
    | [] => exact flaw.ne_nil rfl
    | 0 :: q =>
      have earlier : q < p := by simpa [reached_some, List.cons_lt_cons_iff] using reached
      exact quiet q (reached_some.mpr earlier) g ((flawAt_first clear).mp flaw)
    | (j + 1) :: q => simp [reached_some, List.cons_lt_cons_iff] at reached
  · rintro _ ⟨⟩
    exact (flawAt_first clear).mpr (flawed _ rfl)
  · intro k
    have below := exists_meets_iff above clear.found (· < p) started k
    simp only [reached_some] at entered
    rw [exists_among_iff, List.mem_cons, entered, ← below]
    simp [reached_some, List.cons_lt_cons_iff]

/-- A pass that goes through the first key and on to the others. -/
theorem Explored.past {within met : List Key} {stop : Option (Position × Failure)}
    (clear : Clear find above claimed key n)
    (inside : Explored find (key :: claimed) (trailAmong find (key :: above) n.body.holes) within none)
    (rest : Explored find ((key :: within).reverse ++ claimed) (trailAmong find above others) met stop) :
    Explored find claimed (trailAmong find above (key :: others)) (key :: (within ++ met))
      (stop.map advance) := by
  have all : ∀ k, k ∈ key :: within ↔ ∃ q, Meets (trail find above key) q k := by
    intro k
    have below := exists_meets_iff above clear.found (fun _ => True) trivial k
    simpa [inside.mem_met, reached_none] using below.symm
  obtain ⟨before, later⟩ := reached_advance fun last member => (rest.flawed last member).ne_nil
  refine ⟨?_, ?_, ?_⟩
  · intro q reached g flaw
    match q with
    | [] => exact flaw.ne_nil rfl
    | 0 :: q => exact inside.clear q reached_none g ((flawAt_first clear).mp flaw)
    | (j + 1) :: q => exact rest.clear _ ((later j q).mp reached) g ((flawAt_later all).mp flaw)
  · intro last member
    obtain ⟨⟨p, g⟩, stopped, rfl⟩ := Option.map_eq_some_iff.mp member
    have flaw := rest.flawed _ stopped
    cases p with
    | nil => exact absurd rfl flaw.ne_nil
    | cons j p => exact (flawAt_later all).mpr flaw
  · intro k
    rw [exists_among_iff, ← List.cons_append, List.mem_append, all, rest.mem_met]
    simp only [before, later, true_and]
    refine or_congr_right ⟨?_, ?_⟩
    · rintro ⟨q, reached, outer, here⟩
      cases q with
      | nil => cases here
      | cons j q => exact ⟨j, q, reached, outer, here⟩
    · rintro ⟨j, q, reached, here⟩
      exact ⟨_, reached, here⟩

/-- What a pass entered, where it stopped and why are told by the order of positions. -/
theorem Pass.explored {keys met : List Key} {stop : Option (Position × Failure)}
    (pass : Pass find above claimed keys met stop) :
    Explored find claimed (trailAmong find above keys) met stop := by
  induction pass with
  | done =>
    refine ⟨?_, by simp, by simp [Meets]⟩
    rintro p - f ⟨keys, here, -⟩
    cases trailAmong_nil.symm.trans here
  | stuck flaw => exact .stuck flaw
  | within clear _ ih => exact .within clear ih
  | past clear _ _ ihInside ihRest => exact .past clear ihInside ihRest

/-- The keys that a pass enters were not gone, lead to nodes and come up once. -/
theorem Pass.entered {keys met : List Key} {stop : Option (Position × Failure)}
    (pass : Pass find above claimed keys met stop) :
    met.Nodup ∧ ∀ k ∈ met, k ∉ claimed ∧ (find k).isSome := by
  induction pass with
  | done | stuck => simp
  | within clear _ ih =>
    obtain ⟨single, taken⟩ := ih
    refine ⟨List.nodup_cons.mpr ⟨fun again => (taken _ again).1 List.mem_cons_self, single⟩, ?_⟩
    intro k member
    rcases List.mem_cons.mp member with rfl | later
    · exact ⟨clear.fresh, by simp [clear.found]⟩
    · exact ⟨fun before => (taken k later).1 (List.mem_cons_of_mem _ before), (taken k later).2⟩
  | past clear _ _ ihInside ihRest =>
    obtain ⟨single, taken⟩ := ihInside
    obtain ⟨singleRest, takenRest⟩ := ihRest
    simp only [List.reverse_cons, List.mem_append, List.mem_reverse, List.mem_cons, not_or]
      at taken takenRest
    refine ⟨?_, ?_⟩
    · refine List.nodup_cons.mpr ⟨?_, List.nodup_append.mpr ⟨single, singleRest, ?_⟩⟩
      · intro again
        rcases List.mem_append.mp again with inside | later
        · exact (taken _ inside).1.1 rfl
        · exact (takenRest _ later).1.1.2.1 rfl
      · rintro k inside _ later rfl
        exact (takenRest k later).1.1.1 inside
    · intro k member
      rcases List.mem_cons.mp member with rfl | member
      · exact ⟨clear.fresh, by simp [clear.found]⟩
      · rcases List.mem_append.mp member with inside | later
        · exact ⟨(taken k inside).1.2, (taken k inside).2⟩
        · exact ⟨(takenRest k later).1.2, (takenRest k later).2⟩

theorem Pass.explored_single {met : List Key} {stop : Option (Position × Failure)}
    (pass : Pass find above claimed [key] met stop) :
    ∃ last, stop.map Prod.snd = last.map Prod.snd ∧
      Explored find claimed (trail find above key) met last := by
  obtain ⟨quiet, flawed, entered⟩ := pass.explored
  have flaw_iff : ∀ p f, FlawAt find claimed (trailAmong find above [key]) (0 :: p) f ↔
      FlawAt find claimed (trail find above key) p f := fun _ _ => flawAt_congr trailAmong_first gone_first
  have meets_iff : ∀ k, k ∈ met ↔ ∃ p, Reached stop (0 :: p) ∧ Meets (trail find above key) p k := by
    intro k
    rw [entered, exists_among_iff]
    simp [Meets]
  match stop with
  | none =>
    refine ⟨none, rfl, ?_, by simp, by simpa [reached_none] using meets_iff⟩
    exact fun p _ f flaw => quiet (0 :: p) reached_none f ((flaw_iff p f).mpr flaw)
  | some (p, f) =>
    have flaw := flawed _ rfl
    match p with
    | [] => exact absurd rfl flaw.ne_nil
    | (_ + 1) :: _ =>
      obtain ⟨_, here, _⟩ := flaw
      cases here
    | 0 :: p =>
      refine ⟨some (p, f), rfl, ?_, ?_, ?_⟩
      · intro q earlier g flaw
        refine quiet (0 :: q) ?_ g ((flaw_iff q g).mpr flaw)
        simpa [reached_some, List.cons_lt_cons_iff] using earlier
      · rintro _ ⟨⟩
        exact (flaw_iff p f).mp flaw
      · simpa [reached_some, List.cons_lt_cons_iff] using meets_iff

end SystemLoops.Loop
