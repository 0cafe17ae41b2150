import Mathlib.Data.List.Infix
import SystemLoops.Proofs.Growth

namespace SystemLoops

/-- The message of a finding ends in one of some ways. -/
def Diagnostic.EndsIn (endings : List Text) (d : Diagnostic) : Prop :=
  ∃ lead, ∃ ending ∈ endings, d.message = lead ++ ending

namespace Diagnostic

variable {d : Diagnostic} {endings : List Text} {other : Text}

theorem endsIn_of_mem {ending : Text} (member : ending ∈ endings) (lead : Text)
    (told : d.message = lead ++ ending) : d.EndsIn endings :=
  ⟨lead, ending, member, told⟩

/-- A message does not end in a way of its own kind and in a way that is apart from it. -/
theorem EndsIn.not_suffix (ends : d.EndsIn endings)
    (apart : ∀ ending ∈ endings, ¬ other <:+ ending ∧ ¬ ending <:+ other) : ¬ other <:+ d.message := by
  obtain ⟨lead, ending, member, told⟩ := ends
  intro also
  rw [told] at also
  rcases List.suffix_or_suffix_of_suffix also (List.suffix_append lead ending) with longer | shorter
  · exact (apart ending member).1 longer
  · exact (apart ending member).2 shorter

end Diagnostic

open Diagnostic (EndsIn endsIn_of_mem)

namespace Classified

/-- The findings that come with a statement. -/
def attached : Classified → List Diagnostic
  | .plain _ _ d => d.toList
  | .exclusion _ _ _ d => [d]
  | .iteration _ _ _ _ _ found => found

def endings : List Text :=
  [" call has no function literal argument and is passed through unexpanded",
   " function literal has no body and is passed through unexpanded",
   " is not an exclusion filter; its type arguments are ignored",
   " and filters nothing",
   " is not recognised as an iteration and is passed through"]

theorem misspelt_endsIn (names : Combinators) (position : Position) (chain : List Member) :
    ∀ d ∈ misspeltExclusions names position chain, d.EndsIn endings := by
  intro d member
  obtain ⟨called, -, told⟩ := List.mem_filterMap.mp member
  split at told
  · cases told
  · obtain ⟨suggestion, -, rfl⟩ := Option.map_eq_some_iff.mp told
    exact endsIn_of_mem (by simp [endings]) _ rfl

theorem ofEach_endsIn (names : Combinators) (st : Stmt) :
    ∀ d ∈ (ofEach names st).attached, d.EndsIn endings := by
  unfold ofEach
  split
  · exact List.forall_mem_singleton.mpr (endsIn_of_mem List.mem_cons_self _ rfl)
  · split
    · exact List.forall_mem_singleton.mpr (endsIn_of_mem (by simp [endings]) _ rfl)
    · exact misspelt_endsIn names st.position _

theorem of_endsIn (names : Combinators) (st : Stmt) :
    ∀ d ∈ (of names st).attached, d.EndsIn endings := by
  unfold of
  split
  · simp [attached]
  · split
    · exact ofEach_endsIn names st
    · split
      · exact List.forall_mem_singleton.mpr (endsIn_of_mem (by simp [endings]) _ rfl)
      · split
        · intro d member
          obtain ⟨suggestion, -, rfl⟩ := Option.map_eq_some_iff.mp (Option.mem_toList.mp member)
          exact endsIn_of_mem (by simp [endings]) _ rfl
        · simp [attached]

end Classified

namespace Walker

variable {o : WalkOptions} {depth : UInt64} {w : Walker}

/-- How the findings about a statement that is kept end. -/
def remarkEndings : List Text :=
  " call inside a compound statement is not expanded"
    :: " body leaves UpdateGenerated instead of skipping the entity; use continue" :: Classified.endings

def paramEndings : List Text :=
  [" has no component type and is ignored",
   " shadows the receiver; generated field accesses will not resolve"]

/-- How the warning about an iteration nested too deep ends. -/
def truncationEnding : Text :=
  " levels is not expanded"

theorem truncation_endsIn (position : Position) : (truncation o position).EndsIn [truncationEnding] :=
  endsIn_of_mem List.mem_cons_self _ rfl

theorem notePlain_endsIn (source : Text) (position : Position) {found : Option Diagnostic}
    (before : ∀ d ∈ w.diagnostics, d.EndsIn remarkEndings) (own : ∀ d ∈ found, d.EndsIn remarkEndings) :
    ∀ d ∈ (w.notePlain o source position found).diagnostics, d.EndsIn remarkEndings := by
  unfold notePlain
  split
  · exact List.forall_mem_append.mpr ⟨before, List.forall_mem_singleton.mpr (own _ rfl)⟩
  · split
    · exact List.forall_mem_append.mpr ⟨before, List.forall_mem_singleton.mpr
        (endsIn_of_mem List.mem_cons_self _ rfl)⟩
    · exact before

theorem remarks_endsIn {names : Combinators} {st : Stmt} :
    ∀ d ∈ remarks o depth (Classified.of names st), d.EndsIn remarkEndings := by
  have own : ∀ d ∈ (Classified.of names st).attached, d.EndsIn remarkEndings := by
    intro d member
    obtain ⟨lead, ending, known, told⟩ := Classified.of_endsIn names st d member
    exact endsIn_of_mem (List.mem_cons_of_mem _ (List.mem_cons_of_mem _ known)) lead told
  cases kind : Classified.of names st with
  | plain source position found =>
    rw [kind] at own
    refine notePlain_endsIn source position ?_ (by simpa [Classified.attached] using own)
    split
    · exact List.forall_mem_singleton.mpr (endsIn_of_mem (by simp [remarkEndings]) _ rfl)
    · simp
  | exclusion source position _ d =>
    rw [kind] at own
    exact notePlain_endsIn source position (by simp) (by simpa [Classified.attached] using own)
  | iteration => simp [remarks, keep]

theorem paramFinding_endsIn {receiver : Text} {position : Position} {p : Param} {d : Diagnostic}
    (found : paramFinding? receiver position p = some d) : d.EndsIn paramEndings := by
  unfold paramFinding? at found
  split at found
  · cases found
    exact endsIn_of_mem List.mem_cons_self _ rfl
  · split at found
    · cases found
      exact endsIn_of_mem (by simp [paramEndings]) _ rfl
    · cases found

end Walker

end SystemLoops
