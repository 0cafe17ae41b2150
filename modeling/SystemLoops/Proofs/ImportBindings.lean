import SystemLoops.Generated.Assembly
import SystemLoops.Proofs.Quotation

/-!
The import declaration of a unit. A path gets one line, written as the first import that has it, and the
runtime gets the first line of all. Main statement: what an import binds is kept exactly when it gives its
path the name under which that path is written, so an alias is lost when its path has come up before.
-/

namespace SystemLoops

namespace Assembly

variable {imports : List Import} {seen : List Text} {runtime line path : Text} {i : Import}

def firstOf? (imports : List Import) (path : Text) : Option Import :=
  imports.find? fun i => i.path == path

/-- The name under which a path is written: none for the runtime, and else that of the first import. -/
def nameOf (imports : List Import) (runtime path : Text) : Text :=
  if path = runtime then [] else ((firstOf? imports path).map Import.name).getD []

/-! ### The first import of a path -/

theorem path_of_firstOf (found : firstOf? imports path = some i) : i.path = path := by
  simpa using List.find?_some found

theorem mem_of_firstOf (found : firstOf? imports path = some i) : i ∈ imports :=
  List.mem_of_find?_eq_some found

theorem firstOf_cons (i : Import) (rest : List Import) (path : Text) :
    firstOf? (i :: rest) path = if i.path = path then some i else firstOf? rest path := by
  by_cases same : i.path = path
  · simp [firstOf?, same]
  · simp [firstOf?, same]

theorem exists_firstOf (member : i ∈ imports) : ∃ j, firstOf? imports i.path = some j := by
  cases found : firstOf? imports i.path with
  | some j => exact ⟨j, rfl⟩
  | none => exact absurd (beq_self_eq_true i.path) (List.find?_eq_none.mp found i member)

/-! ### The lines -/

theorem mem_importLinesFrom : line ∈ importLinesFrom seen imports ↔
    ∃ i, firstOf? imports i.path = some i ∧ i.path ∉ seen ∧ line = i.render := by
  induction imports generalizing seen with
  | nil => simp [importLinesFrom, firstOf?]
  | cons first rest ih =>
    rw [importLinesFrom]
    simp only [firstOf_cons]
    by_cases known : first.path ∈ seen
    · rw [if_pos (by simpa using known), ih]
      refine exists_congr fun i => ?_
      by_cases same : first.path = i.path
      · simp [same ▸ known]
      · rw [if_neg same]
    · rw [if_neg (by simpa using known), List.mem_cons, ih]
      constructor
      · rintro (rfl | ⟨i, found, unseen, written⟩)
        · exact ⟨first, if_pos rfl, known, rfl⟩
        · obtain ⟨apart, fresh⟩ := not_or.mp (mt List.mem_cons.mpr unseen)
          exact ⟨i, by rw [if_neg (Ne.symm apart), found], fresh, written⟩
      · rintro ⟨i, found, fresh, written⟩
        by_cases same : first.path = i.path
        · rw [if_pos same] at found
          cases found
          exact .inl written
        · rw [if_neg same] at found
          exact .inr ⟨i, found, mt List.mem_cons.mp (not_or.mpr ⟨Ne.symm same, fresh⟩), written⟩

/-- Lines come in the order in which the imports are first written so. -/
theorem ordered_importLinesFrom : (importLinesFrom seen imports).Pairwise fun a b =>
    (imports.map Import.render).idxOf a < (imports.map Import.render).idxOf b := by
  induction imports generalizing seen with
  | nil => exact .nil
  | cons first rest ih =>
    -- a line for a path that has been seen is not that of the first import
    have later {seen : List Text} (known : first.path ∈ seen) :
        ∀ line ∈ importLinesFrom seen rest, ((first :: rest).map Import.render).idxOf line =
          (rest.map Import.render).idxOf line + 1 := by
      intro line member
      obtain ⟨i, -, unseen, rfl⟩ := mem_importLinesFrom.mp member
      have apart : first.render ≠ i.render := by
        intro same
        rw [Import.render_inj same] at known
        exact unseen known
      rw [List.map_cons, List.idxOf_cons, beq_false_of_ne apart, cond_false]
    rw [importLinesFrom]
    split
    · rename_i known
      refine ih.imp_of_mem fun before after order => ?_
      rw [later (by simpa using known) _ before, later (by simpa using known) _ after]
      exact Nat.succ_lt_succ order
    · refine .cons ?_ (ih.imp_of_mem fun before after order => ?_)
      · intro line member
        rw [later List.mem_cons_self line member, List.map_cons, List.idxOf_cons_self]
        exact Nat.succ_pos _
      · rw [later List.mem_cons_self _ before, later List.mem_cons_self _ after]
        exact Nat.succ_lt_succ order

theorem quote_eq_render (runtime : Text) : Text.quote runtime = Import.render ⟨[], runtime⟩ := rfl

theorem nodup_importLines : (importLines imports runtime).Nodup := by
  refine List.nodup_cons.mpr ⟨?_, ordered_importLinesFrom.imp fun order same => ?_⟩
  · intro again
    obtain ⟨i, -, unseen, written⟩ := mem_importLinesFrom.mp again
    have same : ⟨[], runtime⟩ = i := Import.render_inj written
    exact unseen (by simp [← same])
  · rw [same] at order
    exact Nat.lt_irrefl _ order

theorem render_mem_iff (member : i ∈ imports) :
    i.render ∈ importLines imports runtime ↔ i.name = nameOf imports runtime i.path := by
  rw [importLines, List.mem_cons, mem_importLinesFrom, quote_eq_render, nameOf]
  by_cases own : i.path = runtime
  · rw [if_pos own]
    constructor
    · rintro (written | ⟨j, -, unseen, written⟩)
      · rw [Import.render_inj written]
      · rw [Import.render_inj written] at own
        exact absurd (List.mem_singleton.mpr own) unseen
    · intro unnamed
      exact .inl (by rw [← own, ← unnamed])
  · rw [if_neg own]
    obtain ⟨first, found⟩ := exists_firstOf member
    rw [found, Option.map_some, Option.getD_some]
    constructor
    · rintro (written | ⟨j, other, -, written⟩)
      · rw [Import.render_inj written] at own
        exact absurd rfl own
      · rw [Import.render_inj written, other] at found
        cases found
        rw [Import.render_inj written]
    · intro named
      have same : i = first := by
        have path := path_of_firstOf found
        cases i
        cases first
        simp_all
      exact .inr ⟨i, by rw [found, same], by simpa using own, rfl⟩

theorem nameOf_mem (member : i ∈ imports) :
    Import.render ⟨nameOf imports runtime i.path, i.path⟩ ∈ importLines imports runtime := by
  by_cases own : i.path = runtime
  · rw [nameOf, if_pos own, own]
    exact List.mem_cons_self
  · obtain ⟨first, found⟩ := exists_firstOf member
    have path := path_of_firstOf found
    have kept : first.render ∈ importLines imports runtime := by
      rw [render_mem_iff (mem_of_firstOf found), nameOf, path, if_neg own, found]
      rfl
    rw [nameOf, if_neg own, found, ← path]
    exact kept

/-- The runtime has the first line of the import declaration, and every other line is that of an import of
the method; the lines come in the order in which the imports are first written so, and no line twice. Every
path of an import has a line, under the name of the path, and an import has a line of its own exactly when it
gives its path that name. So no import is lost exactly when no two imports give one path two names and none
gives one to the runtime. -/
theorem bindings_kept_iff (imports : List Import) (runtime : Text) :
    (importLines imports runtime).head? = some (Import.render ⟨[], runtime⟩) ∧
    (∀ line ∈ (importLines imports runtime).tail, ∃ i ∈ imports, line = i.render) ∧
    ((importLines imports runtime).tail.Pairwise fun a b =>
      (imports.map Import.render).idxOf a < (imports.map Import.render).idxOf b) ∧
    (importLines imports runtime).Nodup ∧
    (∀ i ∈ imports,
      Import.render ⟨nameOf imports runtime i.path, i.path⟩ ∈ importLines imports runtime) ∧
    (∀ i ∈ imports,
      i.render ∈ importLines imports runtime ↔ i.name = nameOf imports runtime i.path) ∧
    ((∀ i ∈ imports, i.render ∈ importLines imports runtime) ↔
      (∀ i ∈ imports, ∀ j ∈ imports, i.path = j.path → i.name = j.name) ∧
        ∀ i ∈ imports, i.path = runtime → i.name = []) := by
  have origin : ∀ line ∈ (importLines imports runtime).tail, ∃ i ∈ imports, line = i.render := by
    intro line member
    obtain ⟨i, found, -, written⟩ := mem_importLinesFrom.mp member
    exact ⟨i, mem_of_firstOf found, written⟩
  refine ⟨rfl, origin, ordered_importLinesFrom, nodup_importLines, fun i => nameOf_mem,
    fun i => render_mem_iff, ?_⟩
  constructor
  · intro kept
    have named : ∀ i ∈ imports, i.name = nameOf imports runtime i.path :=
      fun i member => (render_mem_iff member).mp (kept i member)
    refine ⟨fun i first j second same => ?_, fun i member own => ?_⟩
    · rw [named i first, named j second, same]
    · rw [named i member, nameOf, if_pos own]
  · rintro ⟨agree, unnamed⟩ i member
    rw [render_mem_iff member, nameOf]
    by_cases own : i.path = runtime
    · rw [if_pos own]
      exact unnamed i member own
    · obtain ⟨first, found⟩ := exists_firstOf member
      rw [if_neg own, found]
      exact agree i member first (mem_of_firstOf found) (path_of_firstOf found).symm

/-- One package under two names, and the runtime under a name of its own. -/
def aliased : List Import :=
  [⟨[], "math"⟩, ⟨"m", "math"⟩, ⟨"rt", "github.com/aledsdavies/ecsgen/ecs"⟩]

/-- The second name of the package and the name of the runtime are lost. -/
theorem bindings_kept_iff_aliased :
    importLines aliased "github.com/aledsdavies/ecsgen/ecs" =
        ["\"github.com/aledsdavies/ecsgen/ecs\"", "\"math\""].map Text.ofString ∧
      ¬ ∀ i ∈ aliased, i.render ∈ importLines aliased "github.com/aledsdavies/ecsgen/ecs" := by
  obtain ⟨-, -, -, -, -, -, kept⟩ := bindings_kept_iff aliased "github.com/aledsdavies/ecsgen/ecs"
  refine ⟨by decide +kernel, fun all => ?_⟩
  have same := (kept.mp all).1 ⟨[], "math"⟩ (by decide) ⟨"m", "math"⟩ (by decide) rfl
  cases same

end Assembly

end SystemLoops
