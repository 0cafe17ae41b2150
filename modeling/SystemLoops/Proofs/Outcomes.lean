import SystemLoops.Batch

namespace SystemLoops.Outcome

variable {o : BatchOptions} {generates strict : Bool} {m : Method} {a : Analysis} {r : Outcome}
  {d : Diagnostic}

theorem underStrict_false (r : Outcome) : underStrict false r = r := by
  cases r.diagnostics.find? Diagnostic.isWarning <;> rfl

theorem underStrict_silent (none : r.diagnostics.find? Diagnostic.isWarning = none) :
    underStrict true r = r := by
  simp only [underStrict, none]

theorem underStrict_warned (first : r.diagnostics.find? Diagnostic.isWarning = some d) :
    underStrict true r =
      { r with
        unit := none
        failure := some ((Failure.new .strictDiagnostic d.render).withContext "system" r.system) } := by
  simp only [underStrict, first]

/-- Strict mode leaves an outcome alone, or withdraws its unit and tells why. -/
theorem underStrict_cases (strict : Bool) (r : Outcome) :
    underStrict strict r = r ∨
      (underStrict strict r).system = r.system ∧ (underStrict strict r).unit = none ∧
        (underStrict strict r).failure.isSome := by
  cases strict with
  | false => exact .inl (underStrict_false r)
  | true =>
    cases found : r.diagnostics.find? Diagnostic.isWarning with
    | none => exact .inl (underStrict_silent found)
    | some d =>
      rw [underStrict_warned found]
      exact .inr ⟨rfl, rfl, rfl⟩

theorem system_generate : (generate o a r).system = r.system := by
  unfold generate
  split
  · rfl
  · rfl
  · rcases underStrict_cases o.strict { r with unit := some _ } with same | ⟨system, -⟩
    · rw [same]
    · exact system

theorem system_process : (process o generates m).system = m.system := by
  unfold process
  split
  · rfl
  · rfl
  · split
    · exact system_generate
    · rename_i a _ _
      rcases underStrict_cases o.strict { system := m.system, analysis := some a } with
        same | ⟨system, -⟩
      · rw [same]
      · exact system

/-- A method whose unit is asked for ends with a failure and no unit, or with the unit of its analysed
form and no failure. -/
theorem process_cases (o : BatchOptions) (m : Method) :
    ((process o true m).unit = none ∧ (process o true m).failure.isSome) ∨
      ∃ a u, Method.analyse (some m) o.walk = .ok a ∧ GeneratedUnit.ofAnalysis a o.unit = .ok u ∧
        (process o true m).unit = some u ∧ (process o true m).failure = none := by
  unfold process
  split
  · exact .inl ⟨rfl, rfl⟩
  · exact .inl ⟨rfl, rfl⟩
  · rename_i a analysed
    rw [if_pos rfl, generate]
    split
    · exact .inl ⟨rfl, rfl⟩
    · exact .inl ⟨rfl, rfl⟩
    · rename_i u generated
      rcases underStrict_cases o.strict
        { system := m.system, analysis := some a, unit := some u } with same | ⟨-, unit, failure⟩
      · rw [same]
        exact .inr ⟨a, u, analysed, generated, rfl, rfl⟩
      · exact .inl ⟨unit, failure⟩

theorem unit_isSome_iff : (process o true m).unit.isSome ↔ (process o true m).failure = none := by
  rcases process_cases o m with ⟨unit, failure⟩ | ⟨a, u, -, -, unit, failure⟩
  · obtain ⟨f, found⟩ := Option.isSome_iff_exists.mp failure
    simp [unit, found]
  · simp [unit, failure]

end SystemLoops.Outcome
