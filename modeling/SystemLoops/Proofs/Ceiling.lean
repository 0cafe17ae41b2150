import SystemLoops.Proofs.Expansion
import SystemLoops.Proofs.Findings

/-!
What lies below the ceiling. An iteration nested too deep is left out as a whole: of all that it says, only
the place of its call is looked at. Main statement: methods that agree above the ceiling have one analysed
form, in which every iteration at the ceiling has left one comment in its place and one warning.
-/

namespace SystemLoops

/-- The statements of the function literal that a statement takes. -/
def Stmt.inner : Stmt → List Stmt
  | .callWith _ _ _ _ _ body => body
  | _ => []

/-- Two bodies at a depth agree above the ceiling: they differ only in iterations that are nested too deep,
which stand at the same places in both. -/
inductive AgreeAbove (names : Combinators) : UInt64 → List Stmt → List Stmt → Prop where
  | nil : AgreeAbove names depth [] []
  | same (rest : AgreeAbove names depth stmts others) :
      AgreeAbove names depth (st :: stmts) (st :: others)
  | expanded
      (called : (Classified.of names
        (.callWith source position chain params hasBody body)).isIteration = true)
      (shallow : depth < maxDepth) (inside : AgreeAbove names (depth + 1) body body')
      (rest : AgreeAbove names depth stmts others) :
      AgreeAbove names depth (.callWith source position chain params hasBody body :: stmts)
        (.callWith source position chain params hasBody body' :: others)
  | omitted (deep : maxDepth ≤ depth) (called : (Classified.of names st).isIteration = true)
      (other_called : (Classified.of names other).isIteration = true)
      (place : st.position = other.position) (rest : AgreeAbove names depth stmts others) :
      AgreeAbove names depth (st :: stmts) (other :: others)

/-- Two methods agree above the ceiling. -/
structure Method.AgreesAbove (names : Combinators) (m m' : Method) : Prop where
  apart_from_body : m' = { m with body := m'.body }
  bodies : AgreeAbove names 0 m.body m'.body

/-- What a statement of a body at a depth leaves in the template. -/
inductive Placed (names : Combinators) (depth : Nat) : Stmt → Segment → Prop where
  | kept (plain : (Classified.of names st).isIteration = false) :
      Placed names depth st (.text st.source)
  | omitted (called : (Classified.of names st).isIteration = true) (deep : maxDepth.toNat ≤ depth) :
      Placed names depth st (.text Walker.truncatedComment)
  | loop (called : (Classified.of names st).isIteration = true) (shallow : depth < maxDepth.toNat)
      (level : key.depth.toNat = depth) : Placed names depth st (.hole key)

/-- The iterations that are nested too deep, in a call that is expanded at a depth. -/
def Expansion.omitted (names : Combinators) (call : Nat × Stmt) : List Stmt :=
  if call.1 + 1 = maxDepth.toNat then
    call.2.inner.filter fun st => (Classified.of names st).isIteration
  else []

theorem Expansion.calls_at_ceiling {names : Combinators} {depth : Nat} (deep : maxDepth.toNat ≤ depth)
    (stmts : List Stmt) : calls names depth stmts = [] := by
  induction stmts with
  | nil => rfl
  | cons st rest ih => rw [calls, callsIn_truncated deep, ih, List.append_nil]

/-- Whether a finding is about an iteration that was nested too deep. -/
def Walker.isTruncation (d : Diagnostic) : Bool :=
  Walker.truncationEnding.isSuffixOf d.message

namespace Classified

variable {names : Combinators} {st : Stmt}

theorem exists_of_isIteration (called : (of names st).isIteration = true) :
    ∃ params exclusions found,
      of names st = .iteration st.source st.position params exclusions st.inner found := by
  cases kind : of names st with
  | plain | exclusion => simp [kind, isIteration] at called
  | iteration source position params exclusions body found =>
    obtain ⟨chain, given, rfl, -⟩ := of_eq_iteration kind
    exact ⟨params, exclusions, found, rfl⟩

theorem of_other_body {hasBody : Bool} {body inner : List Stmt} {params : List Param}
    {excluded : List Text} (body' : List Stmt)
    (called : of names (.callWith source position chain given hasBody body) =
      .iteration source position params excluded inner found) :
    of names (.callWith source position chain given hasBody body') =
      .iteration source position params excluded body' found := by
  unfold of at called ⊢
  simp only [Stmt.outermost?, Stmt.chain] at called ⊢
  cases last : chain.getLast? with
  | none => simp [last] at called
  | some outermost =>
    simp only [last] at called ⊢
    by_cases combinator : outermost.name = names.each
    · simp only [combinator, beq_self_eq_true, if_true, ofEach, Stmt.lambda?] at called ⊢
      cases hasBody with
      | false => simp at called
      | true =>
        simp only [Bool.not_true, Bool.false_eq_true, if_false] at called ⊢
        cases called
        rfl
    · rw [if_neg (by simpa using combinator)] at called
      split at called
      · cases called
      · split at called <;> cases called

end Classified

/-! ### Two walks -/

namespace Walker

variable {o : WalkOptions} {receiver : Text} {depth : UInt64} {first second : List Stmt}

theorem body_cons_congr {st other : Stmt} (w : Walker)
    (head : stmt o receiver depth w st = stmt o receiver depth w other)
    (tail : ∀ w, body o receiver depth w first = body o receiver depth w second) :
    body o receiver depth w (st :: first) = body o receiver depth w (other :: second) := by
  simp only [body, head, tail]

/-- Walking one of two bodies that agree above the ceiling is walking the other one. -/
theorem body_congr (agree : AgreeAbove o.names depth first second) (w : Walker) :
    body o receiver depth w first = body o receiver depth w second := by
  induction agree generalizing w with
  | nil => rfl
  | same _ ih => exact body_cons_congr w rfl ih
  | @expanded _ _ _ _ _ _ _ body' _ _ called shallow _ _ ihInside ihRest =>
    refine body_cons_congr w ?_ ihRest
    obtain ⟨params, exclusions, found, entered⟩ := Classified.exists_of_isIteration called
    have other := Classified.of_other_body body' entered
    rw [stmt_entered entered shallow, stmt_entered other shallow]
    simp only [Stmt.inner, ihInside]
    rfl
  | omitted deep called other_called place _ ih =>
    refine body_cons_congr w ?_ ih
    obtain ⟨_, _, _, one⟩ := Classified.exists_of_isIteration called
    obtain ⟨_, _, _, two⟩ := Classified.exists_of_isIteration other_called
    rw [stmt_truncated one deep, stmt_truncated two deep, place]

/-! ### Warnings -/

theorem isTruncation_truncation (position : Position) :
    isTruncation (truncation o position) = true := by
  obtain ⟨lead, ending, known, told⟩ := truncation_endsIn (o := o) position
  rw [isTruncation, List.isSuffixOf_iff_suffix, told, List.mem_singleton.mp known]
  exact List.suffix_append lead _

/-- A finding that ends in a way of another kind is not about an omitted iteration. -/
theorem isTruncation_of_endsIn {d : Diagnostic} {endings : List Text} (ends : d.EndsIn endings)
    (apart : ∀ ending ∈ endings, ¬ truncationEnding <:+ ending ∧ ¬ ending <:+ truncationEnding) :
    isTruncation d = false := by
  rw [isTruncation, ← Bool.not_eq_true, List.isSuffixOf_iff_suffix]
  exact ends.not_suffix apart

theorem filter_remarks {st : Stmt} :
    (remarks o depth (Classified.of o.names st)).filter isTruncation = [] := by
  apply List.filter_eq_nil_iff.mpr
  intro d member
  rw [isTruncation_of_endsIn (remarks_endsIn d member) (by decide)]
  exact Bool.false_ne_true

theorem filter_paramFindings {position : Position} (params : List Param) :
    (params.filterMap (paramFinding? receiver position)).filter isTruncation = [] := by
  apply List.filter_eq_nil_iff.mpr
  intro d member
  obtain ⟨p, -, found⟩ := List.mem_filterMap.mp member
  rw [isTruncation_of_endsIn (paramFinding_endsIn found) (by decide)]
  exact Bool.false_ne_true

theorem filter_found {names : Combinators} {st : Stmt} {body : List Stmt}
    (called : Classified.of names st = .iteration source position params exclusions body found) :
    found.filter isTruncation = [] := by
  apply List.filter_eq_nil_iff.mpr
  intro d member
  have ends := Classified.of_endsIn names st d (by rw [called]; exact member)
  rw [isTruncation_of_endsIn ends (by decide)]
  exact Bool.false_ne_true

end Walker

namespace Growth

open Walker (isTruncation isTruncation_truncation filter_remarks filter_paramFindings filter_found
  truncation)

variable {o : WalkOptions} {receiver : Text} {depth : UInt64} {first : Nat} {stmts : List Stmt}
  {segments : Template} {nodes : List Node} {findings : List Diagnostic}

/-- Every statement of a body leaves one piece in the template, in its place. -/
theorem placed (growth : Growth o receiver depth first stmts segments nodes findings) :
    List.Forall₂ (Placed o.names depth.toNat) stmts segments := by
  induction growth with
  | nil => exact .nil
  | kept plain _ ih => exact .cons (.kept plain) ih
  | truncated called deep _ ih =>
    exact .cons (.omitted (by rw [called]; rfl) (UInt64.le_iff_toNat_le.mp deep)) ih
  | loop called shallow _ _ _ ihRest =>
    exact .cons (.loop (by rw [called]; rfl) (UInt64.lt_iff_toNat_lt.mp shallow) rfl) ihRest

/-- The same holds of the body of every call that is expanded and of its node. -/
theorem placed_inside (growth : Growth o receiver depth first stmts segments nodes findings) :
    List.Forall₂ (fun call n => List.Forall₂ (Placed o.names (call.1 + 1)) call.2.inner n.body)
      (Expansion.calls o.names depth.toNat stmts) nodes := by
  induction growth with
  | nil => exact .nil
  | kept plain _ ih =>
    rw [Expansion.calls, Expansion.callsIn_kept plain, List.nil_append]
    exact ih
  | truncated _ deep _ ih =>
    rw [Expansion.calls, Expansion.callsIn_truncated (UInt64.le_iff_toNat_le.mp deep), List.nil_append]
    exact ih
  | loop called shallow inside _ ihInside ihRest =>
    have own := inside.placed
    rw [toNat_succ_of_shallow shallow] at own ihInside
    rw [Expansion.calls, Expansion.callsIn_loop called (toNat_lt_of_shallow shallow), List.cons_append]
    refine .cons ?_ (List.rel_append ihInside ihRest)
    obtain ⟨_, _, rfl, -⟩ := Classified.of_eq_iteration called
    exact own

theorem warnings_at_ceiling (growth : Growth o receiver depth first stmts segments nodes findings)
    (deep : maxDepth ≤ depth) :
    findings.filter isTruncation =
      (stmts.filter fun st => (Classified.of o.names st).isIteration).map
        fun st => truncation o st.position := by
  induction growth with
  | nil => rfl
  | kept plain _ ih =>
    rw [List.filter_append, filter_remarks, List.nil_append, ih deep,
      List.filter_cons_of_neg (by simp [plain])]
  | @truncated st _ position _ _ _ _ _ _ _ _ _ _ called _ _ ih =>
    have iteration : (Classified.of o.names st).isIteration = true := by rw [called]; rfl
    have place : position = st.position := by
      obtain ⟨_, _, rfl, -⟩ := Classified.of_eq_iteration called
      rfl
    rw [List.filter_cons_of_pos (isTruncation_truncation position), ih deep,
      List.filter_cons_of_pos (by exact iteration), List.map_cons, place]
  | loop _ shallow => exact absurd deep (UInt64.not_le.mpr shallow)

/-- The iterations in the body of a call that are warned about, at the ceiling or above it. -/
theorem warnings_inside {st : Stmt} {body : List Stmt} {enclosed : Template} {within : List Node}
    {inward : List Diagnostic}
    (called : Classified.of o.names st = .iteration source position params exclusions body found)
    (shallow : depth < maxDepth)
    (inside : Growth o receiver (depth + 1) first body enclosed within inward)
    (above : depth + 1 < maxDepth → inward.filter isTruncation =
      ((Expansion.calls o.names (depth + 1).toNat body).flatMap (Expansion.omitted o.names)).map
        fun st => truncation o st.position) :
    inward.filter isTruncation =
      ((Expansion.callsIn o.names depth.toNat st).flatMap (Expansion.omitted o.names)).map
        fun st => truncation o st.position := by
  rw [Expansion.callsIn_loop called (toNat_lt_of_shallow shallow), List.flatMap_cons,
    ← toNat_succ_of_shallow shallow]
  by_cases last : depth + 1 < maxDepth
  · have apart : ¬ depth.toNat + 1 = maxDepth.toNat := by
      rw [← toNat_succ_of_shallow shallow]
      exact Nat.ne_of_lt (UInt64.lt_iff_toNat_lt.mp last)
    rw [above last, Expansion.omitted, if_neg apart, List.nil_append]
  · have deep : maxDepth ≤ depth + 1 := UInt64.not_lt.mp last
    have level : depth.toNat + 1 = maxDepth.toNat := by
      have bound := UInt64.le_iff_toNat_le.mp deep
      rw [toNat_succ_of_shallow shallow] at bound
      exact Nat.le_antisymm (toNat_lt_of_shallow shallow) bound
    obtain ⟨_, _, rfl, -⟩ := Classified.of_eq_iteration called
    rw [inside.warnings_at_ceiling deep, Expansion.calls_at_ceiling (UInt64.le_iff_toNat_le.mp deep),
      List.flatMap_nil, List.append_nil, Expansion.omitted, if_pos level, Stmt.inner]

/-- Above the ceiling, the iterations that are warned about stand in the calls of the deepest level. -/
theorem warnings (growth : Growth o receiver depth first stmts segments nodes findings)
    (shallow : depth < maxDepth) :
    findings.filter isTruncation =
      ((Expansion.calls o.names depth.toNat stmts).flatMap (Expansion.omitted o.names)).map
        fun st => truncation o st.position := by
  induction growth with
  | nil => rfl
  | kept plain _ ih =>
    rw [List.filter_append, filter_remarks, List.nil_append, ih shallow, Expansion.calls,
      Expansion.callsIn_kept plain, List.nil_append]
  | truncated _ deep => exact absurd deep (UInt64.not_le.mpr shallow)
  | loop called _ inside _ ihInside ihRest =>
    rw [List.filter_append, List.filter_append, List.filter_append, filter_paramFindings,
      filter_found called, warnings_inside called shallow inside ihInside, ihRest shallow,
      Expansion.calls, List.flatMap_append, List.map_append]
    rfl

end Growth

namespace Method

variable {m m' : Method} {o : WalkOptions}

theorem analyse_of_agreesAbove (agree : m.AgreesAbove o.names m') :
    analyse (some m') o = analyse (some m) o := by
  obtain ⟨apart, bodies⟩ := agree
  have walked : Walker.body o.complete m.receiver 0 {} m.body =
      Walker.body o.complete m.receiver 0 {} m'.body :=
    Walker.body_congr (by rwa [o.names_complete]) {}
  rw [apart]
  simp only [analyse, Walker.outermost_eq, walked]

/-- Nothing below the ceiling has any effect: a method that agrees with this one above the ceiling has the
same analysed form. In that form every statement of the method, and of the body of every call that is
expanded, has left one piece in its place; the piece of an iteration that is nested too deep is the comment
that says so, and each of those iterations is warned about once, at its place. -/
theorem unseen_below_ceiling (m : Method) (o : WalkOptions) :
    (∀ m', m.AgreesAbove o.names m' → analyse (some m') o = analyse (some m) o) ∧
    ∀ a, analyse (some m) o = .ok a →
      List.Forall₂ (Placed o.names 0) m.body a.preamble ∧
      List.Forall₂ (fun call n => List.Forall₂ (Placed o.names (call.1 + 1)) call.2.inner n.body)
        (Expansion.calls o.names 0 m.body) a.nodes ∧
      a.diagnostics.filter Walker.isTruncation =
        ((Expansion.calls o.names 0 m.body).flatMap (Expansion.omitted o.names)).map
          fun st => Walker.truncation o st.position := by
  refine ⟨fun m' agree => analyse_of_agreesAbove agree, fun a analysed => ?_⟩
  obtain ⟨preamble, nodes, findings, growth, distinct, rfl⟩ := growth_of_analyse analysed
  have same : Walker.truncation o.complete = Walker.truncation o := by
    funext position
    rw [Walker.truncation, Walker.truncation, o.names_complete]
  have told := growth.warnings (by decide)
  have whole := growth.placed
  have inside := growth.placed_inside
  rw [o.names_complete] at told whole inside
  rw [same] at told
  rw [nodes_analysis distinct]
  exact ⟨whole, inside, told⟩

/-- A loop over positions around some statements. -/
def loopAround (inside : List Stmt) : List Stmt :=
  [.callWith "m.Each(f)" {} [⟨"Each", []⟩] (some [⟨"Pos", "p"⟩]) true inside]

/-- A method whose innermost statements stand inside six loops. -/
def layered (innermost : List Stmt) : Method :=
  { system := "Motion", package := "motion", receiver := "m"
    body := loopAround (loopAround (loopAround (loopAround (loopAround (loopAround innermost))))) }

/-- The seventh loop may filter, bind and do something else. -/
def seventh : List Stmt :=
  [.callWith "m.Without[Idle]().Each(g)" {} [⟨"Without", ["Idle"]⟩, ⟨"Each", []⟩] (some [⟨"Vel", "v"⟩]) true
    [.text "return" {}]]

theorem agree_loopAround {depth : UInt64} {inside inside' : List Stmt} (shallow : depth < maxDepth)
    (agree : AgreeAbove {} (depth + 1) inside inside') :
    AgreeAbove {} depth (loopAround inside) (loopAround inside') :=
  .expanded rfl shallow agree .nil

/-- Whatever the seventh loop does, the analysed form is the same, with one comment and one warning. -/
theorem unseen_below_ceiling_layered :
    ∃ a, analyse (some (layered (loopAround []))) {} = .ok a ∧ analyse (some (layered seventh)) {} = .ok a ∧
      a.nodes.map (fun n => n.body.contains (.text Walker.truncatedComment)) =
        [false, false, false, false, false, true] ∧
      a.diagnostics = [Walker.truncation {} {}] := by
  have agree : (layered (loopAround [])).AgreesAbove {} (layered seventh) := by
    refine ⟨rfl, ?_⟩
    iterate 6 refine agree_loopAround (by decide) ?_
    exact .omitted (by decide) rfl rfl rfl .nil
  have shown : (analyse (some (layered (loopAround []))) {}).toOption.any (fun a =>
      a.nodes.map (fun n => n.body.contains (.text Walker.truncatedComment)) =
        [false, false, false, false, false, true] ∧
      a.diagnostics = [Walker.truncation {} {}]) = true := by
    decide +kernel
  have unseen := (unseen_below_ceiling (layered (loopAround [])) {}).1 _ agree
  cases analysed : analyse (some (layered (loopAround []))) {} with
  | error t =>
    rw [analysed] at shown
    cases shown
  | ok a =>
    rw [analysed] at shown
    exact ⟨a, rfl, unseen.trans analysed, of_decide_eq_true shown⟩

end Method

end SystemLoops
