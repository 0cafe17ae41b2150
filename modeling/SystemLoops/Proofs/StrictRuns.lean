import SystemLoops.Display
import SystemLoops.Proofs.Outcomes
import SystemLoops.Proofs.StrictMode

/-!
Two runs over the same methods, one of them strict. Main statement: strict mode fails exactly the methods
that succeed with a warning, for the first of their warnings, and keeps what is known of all others; of a
method that it fails it drops the warnings that came with the unit, so the warnings of the runs are the same
exactly when no method is generated with such a warning.
-/

namespace SystemLoops

/-- The warnings about loops whose exclusions are not applied. -/
def Analysis.unapplied (a : Analysis) : List Diagnostic :=
  (Declared.ofNodes a.nodes).conflicts.map (Assembly.conflictWarning (a.arena.getD .empty))

namespace Outcome

/-- The findings that came with the unit of a method, if it has one: the analysis does not know them. -/
def late (r : Outcome) : List Diagnostic :=
  match r.unit, r.analysis with
  | some _, some a => a.unapplied
  | _, _ => []

/-- The findings of the analysis of a method. -/
def early (r : Outcome) : List Diagnostic :=
  match r.analysis with
  | some a => a.diagnostics
  | none => []

variable {o : BatchOptions} {generates : Bool} {m : Method} {r : Outcome} {d : Diagnostic}

theorem isWarning_of_late (member : d ∈ r.late) : d.isWarning = true := by
  unfold late at member
  split at member
  · obtain ⟨c, -, rfl⟩ := List.mem_map.mp member
    exact isWarning_warn _ _
  · cases member

theorem late_of_no_unit (none : r.unit = none) : r.late = [] := by
  simp [late, none]

/-- An outcome that loses its unit is left with the findings of the analysis. -/
theorem diagnostics_withdrawn (r : Outcome) (failure : Option Failure) :
    ({ r with unit := none, failure } : Outcome).diagnostics = r.early := by
  unfold diagnostics early
  cases r.analysis <;> rfl

/-! ### What strict mode does to an outcome -/

/-- A unit comes with the findings of the analysis and the late ones. -/
theorem diagnostics_of_generated {a : Analysis} {options : UnitOptions} {u : GeneratedUnit}
    (generated : GeneratedUnit.ofAnalysis a options = .ok u) :
    u.diagnostics = a.diagnostics ++ a.unapplied := by
  obtain ⟨-, parts, warnings, source, assembled, -, rfl⟩ := GeneratedUnit.ofAnalysis_eq_ok.mp generated
  rw [(Assembly.declared_of_ofAnalysis assembled).2]
  rfl

theorem process_of_generated {a : Analysis} {u : GeneratedUnit} (strict : Bool)
    (analysed : Method.analyse (some m) o.walk = .ok a)
    (generated : GeneratedUnit.ofAnalysis a o.unit = .ok u) :
    process { o with strict } true m =
      underStrict strict { system := m.system, analysis := some a, unit := some u } := by
  simp only [process, analysed, generate, generated, if_true]

/-- A run that is not strict leaves a method with a failure, which a strict run reports alike, or without
one, and then a strict run differs by what strict mode does. -/
theorem process_strict_cases (o : BatchOptions) (generates : Bool) (m : Method) :
    let calm := process { o with strict := false } generates m
    let strict := process { o with strict := true } generates m
    (calm.failure.isSome ∧ calm.unit = none ∧ strict = calm) ∨
      (calm.failure = none ∧ calm.diagnostics = calm.early ++ calm.late ∧
        strict = underStrict true calm) := by
  intro calm strict
  cases analysed : Method.analyse (some m) o.walk with
  | error t =>
    refine .inl ?_
    cases t <;> simp [calm, strict, process, analysed, aborted, failed]
  | ok a =>
    cases generates with
    | false =>
      have made : calm = { system := m.system, analysis := some a } := by
        simp only [calm, process, analysed, underStrict_false, Bool.false_eq_true, if_false]
      have hardened : strict = underStrict true calm := by
        simp only [made, strict, process, analysed, Bool.false_eq_true, if_false]
      rw [made] at hardened ⊢
      exact .inr ⟨rfl, (List.append_nil _).symm, hardened⟩
    | true =>
      cases generated : GeneratedUnit.ofAnalysis a o.unit with
      | error t =>
        refine .inl ?_
        cases t <;> simp [calm, strict, process, analysed, generate, generated, aborted, failed]
      | ok u =>
        have made : calm = { system := m.system, analysis := some a, unit := some u } :=
          (process_of_generated false analysed generated).trans (underStrict_false _)
        have hardened : strict = underStrict true calm :=
          made ▸ process_of_generated true analysed generated
        rw [made] at hardened ⊢
        exact .inr ⟨rfl, diagnostics_of_generated generated, hardened⟩

/-- The outcome of a method in a strict run, next to that in a run that is not strict. -/
structure Hardened (calm strict : Outcome) : Prop where
  system : strict.system = calm.system
  analysis : strict.analysis = calm.analysis
  /-- A method that fails anyway, or of which there is no warning, has the same outcome. -/
  kept : calm.failure.isSome ∨ Quiet calm.diagnostics → strict = calm
  /-- Any other method fails for the first warning, without a unit. -/
  withdrawn : calm.failure = none → ∀ d, calm.diagnostics.find? Diagnostic.isWarning = some d →
    strict.unit = none ∧
    strict.failure = some ((Failure.new .strictDiagnostic d.render).withContext "system" calm.system)
  /-- What is no longer told is what came with the unit. -/
  dropped : calm.diagnostics = strict.diagnostics ++ calm.late

theorem hardened (o : BatchOptions) (generates : Bool) (m : Method) :
    Hardened (process { o with strict := false } generates m)
      (process { o with strict := true } generates m) := by
  have cases := process_strict_cases o generates m
  generalize process { o with strict := false } generates m = calm at cases ⊢
  generalize process { o with strict := true } generates m = strict at cases ⊢
  rcases cases with ⟨failed, unmade, rfl⟩ | ⟨succeeded, told, rfl⟩
  · obtain ⟨f, failure⟩ := Option.isSome_iff_exists.mp failed
    exact ⟨rfl, rfl, fun _ => rfl, by simp [failure], by simp [late_of_no_unit unmade]⟩
  · cases found : calm.diagnostics.find? Diagnostic.isWarning with
    | none =>
      have quiet := find?_eq_none_iff_quiet.mp found
      have prompt : calm.late = [] := List.eq_nil_iff_forall_not_mem.mpr fun d member =>
        not_quiet_of_mem (told ▸ List.mem_append_right _ member) (isWarning_of_late member) quiet
      rw [underStrict_silent found]
      exact ⟨rfl, rfl, fun _ => rfl, fun _ d first => (nomatch found.symm.trans first),
        by simp [prompt]⟩
    | some d =>
      have warned : ¬ Quiet calm.diagnostics :=
        not_quiet_of_mem (List.mem_of_find?_eq_some found) (List.find?_some found)
      rw [underStrict_warned found]
      refine ⟨rfl, rfl, by simp [succeeded, warned], ?_, ?_⟩
      · intro _ first same
        cases found.symm.trans same
        exact ⟨rfl, rfl⟩
      · rw [diagnostics_withdrawn]
        exact told

/-- A method keeps its findings in a strict run exactly when none of them came with its unit. -/
theorem Hardened.diagnostics_eq_iff {calm strict : Outcome} (hardened : Hardened calm strict) :
    strict.diagnostics = calm.diagnostics ↔ calm.late = [] := by
  rw [hardened.dropped]
  exact List.self_eq_append_right

end Outcome

/-! ### Batches -/

namespace Batch

open Outcome (Hardened)

variable {calm strict : Batch}

theorem warnings_cons (r : Outcome) (rest : Batch) : warnings (r :: rest) =
    (r.diagnostics.filter Diagnostic.isWarning).length + warnings rest :=
  rfl

/-- The warnings that a strict run counts less are those that came with units. -/
theorem warnings_hardened (hardened : List.Forall₂ Hardened calm strict) :
    calm.warnings = strict.warnings + total (calm.map fun r => r.late.length) := by
  induction hardened with
  | nil => rfl
  | @cons r s rest others here _ ih =>
    have all : r.late.filter Diagnostic.isWarning = r.late :=
      List.filter_eq_self.mpr fun d member => Outcome.isWarning_of_late member
    have split : (r.diagnostics.filter Diagnostic.isWarning).length =
        (s.diagnostics.filter Diagnostic.isWarning).length + r.late.length := by
      rw [here.dropped, List.filter_append, all, List.length_append]
    rw [warnings_cons, warnings_cons, ih, split, List.map_cons, total_cons]
    omega

theorem total_late_eq_zero : total (calm.map fun r => r.late.length) = 0 ↔ ∀ r ∈ calm, r.late = [] := by
  induction calm with
  | nil => simp [total]
  | cons r rest ih =>
    rw [List.map_cons, total_cons, Nat.add_eq_zero_iff, ih, List.length_eq_zero_iff, List.forall_mem_cons]

theorem diagnostics_hardened (hardened : List.Forall₂ Hardened calm strict) :
    strict.map Outcome.diagnostics = calm.map Outcome.diagnostics ↔ ∀ r ∈ calm, r.late = [] := by
  induction hardened with
  | nil => simp
  | cons here _ ih =>
    rw [List.map_cons, List.map_cons, List.cons.injEq, here.diagnostics_eq_iff, ih, List.forall_mem_cons]

theorem displayWarnings_hardened (hardened : List.Forall₂ Hardened calm strict)
    (prompt : ∀ r ∈ calm, r.late = []) (coloured : Bool) :
    strict.displayWarnings coloured = calm.displayWarnings coloured := by
  induction hardened with
  | nil => rfl
  | cons here _ ih =>
    obtain ⟨first, others⟩ := List.forall_mem_cons.mp prompt
    have told := here.diagnostics_eq_iff.mpr first
    simp only [displayWarnings, List.flatMap_cons, told, here.system] at ih ⊢
    rw [ih others]

/-- Strict mode over some methods. Every method has the outcome of the run that is not strict, except that
one without a failure but with a warning fails for the first of its warnings, has no unit, and loses the
findings that came with the unit. So the runs tell the same findings of all methods, and count as many
warnings, exactly when no unit came with findings of its own; and then they show the same. -/
theorem strict_run (o : BatchOptions) (generates : Bool) (methods : List Method) :
    ∃ calm strict, run { o with strict := false } generates false methods = .ok calm ∧
      run { o with strict := true } generates false methods = .ok strict ∧
      List.Forall₂ Hardened calm strict ∧
      (strict.map Outcome.diagnostics = calm.map Outcome.diagnostics ↔ ∀ r ∈ calm, r.late = []) ∧
      (strict.warnings = calm.warnings ↔ ∀ r ∈ calm, r.late = []) ∧
      ((∀ r ∈ calm, r.late = []) → ∀ coloured,
        strict.displayWarnings coloured = calm.displayWarnings coloured) := by
  have hardened : List.Forall₂ Hardened
      (methods.map (Outcome.process { o with strict := false } generates))
      (methods.map (Outcome.process { o with strict := true } generates)) := by
    rw [List.forall₂_map_left_iff, List.forall₂_map_right_iff, List.forall₂_same]
    exact fun m _ => Outcome.hardened o generates m
  refine ⟨_, _, rfl, rfl, hardened, diagnostics_hardened hardened, ?_, displayWarnings_hardened hardened⟩
  rw [warnings_hardened hardened, ← total_late_eq_zero]
  omega

end Batch

/-- Two loops over one component, of which only the second leaves something out. -/
def Method.conflicting : Method :=
  { system := "Motion"
    package := "motion"
    receiver := "m"
    body := [
      .callWith "m.Each(f)" {} [⟨"Each", []⟩] (some [⟨"Pos", "p"⟩]) true [.text "use(p)" {}],
      .callWith "m.Without[Idle]().Each(g)" {} [⟨"Without", ["Idle"]⟩, ⟨"Each", []⟩]
        (some [⟨"Pos", "p"⟩]) true [.text "use(p)" {}]] }

/-- The strict run does not tell the warning for which it fails the method. -/
theorem Batch.strict_run_conflicting :
    ∃ calm strict,
      Batch.run { Method.strictly with strict := false } true false [.conflicting] = .ok [calm] ∧
      Batch.run { Method.strictly with strict := true } true false [.conflicting] = .ok [strict] ∧
      calm.failure = none ∧ strict.failure.isSome ∧
      calm.diagnostics = [.warn {} ("query query_Pos already filters []; exclusions [Idle] of "
        ++ "LAMBDA_DEPTH:0,ID:1 are not applied")] ∧
      strict.diagnostics = [] := by
  obtain ⟨a, analysed, validated, found, unapplied⟩ : ∃ a,
      Method.analyse (some .conflicting) {} = .ok a ∧ a.validate = .ok () ∧ a.diagnostics = [] ∧
        a.unapplied = [.warn {} ("query query_Pos already filters []; exclusions [Idle] of "
          ++ "LAMBDA_DEPTH:0,ID:1 are not applied")] :=
    ⟨_, rfl, rfl, by decide +kernel, by decide +kernel⟩
  obtain ⟨parts, warnings, assembled, -⟩ :=
    Method.unit_of_analyse (by decide) analysed Method.strictly.unit.complete
  obtain ⟨u, generated⟩ : ∃ u, GeneratedUnit.ofAnalysis a Method.strictly.unit = .ok u :=
    ⟨_, GeneratedUnit.ofAnalysis_eq_ok.mpr ⟨validated, parts, warnings, _, assembled, rfl, rfl⟩⟩
  have told := Outcome.diagnostics_of_generated generated
  rw [found, unapplied, List.nil_append] at told
  have made := (Outcome.process_of_generated (o := Method.strictly) false analysed generated).trans
    (Outcome.underStrict_false _)
  have hardened := Outcome.hardened Method.strictly true .conflicting
  rw [made] at hardened
  refine ⟨_, _, rfl, rfl, congrArg Outcome.failure made, ?_, ?_, ?_⟩
  · rw [(hardened.withdrawn rfl _ (by simp only [Outcome.diagnostics, told]; rfl)).2]
    rfl
  · exact (congrArg Outcome.diagnostics made).trans told
  · have kept := hardened.dropped
    simp only [Outcome.diagnostics, Outcome.late, told, unapplied] at kept
    exact (List.self_eq_append_left.mp kept)

end SystemLoops
