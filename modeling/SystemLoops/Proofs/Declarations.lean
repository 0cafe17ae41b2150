import SystemLoops.Generated.Unit
import SystemLoops.Proofs.SharedQueries

/-!
What a unit declares, and what its loops read. The walk, the merging of queries and the rendering of
loops each work names out for themselves, from the same nodes. Main statement: the names that the walk
gathers are those that the unit declares, and every loop of its body is drawn from declarations.
-/

namespace SystemLoops

namespace OrderedSet

variable {α : Type u} [BEq α] [LawfulBEq α]

theorem nodup_add {s : OrderedSet α} (distinct : s.items.Nodup) (value : α) :
    (s.add value).items.Nodup := by
  unfold add
  split
  · exact distinct
  · rename_i fresh
    have absent : value ∉ s.items := by simpa [contains] using fresh
    rw [← List.concat_eq_append]
    exact distinct.concat absent

theorem nodup_addAll {s : OrderedSet α} (distinct : s.items.Nodup) (values : List α) :
    (s.addAll values).items.Nodup := by
  induction values generalizing s with
  | nil => exact distinct
  | cons value rest ih => exact ih (nodup_add distinct value)

/-- Of values added one after the other, the first of every kind stays. -/
theorem items_addAll (values : List α) : (addAll {} values).items = values.eraseDups := by
  induction values using List.reverseRecOn with
  | nil => rfl
  | append_singleton earlier value ih =>
    have last : addAll {} (earlier ++ [value]) = (addAll {} earlier).add value := List.foldl_append
    rw [last, List.eraseDups_append, ← ih]
    by_cases again : value ∈ earlier
    · have known : value ∈ (addAll {} earlier).items := by
        rw [ih]
        exact List.mem_eraseDups.mpr again
      simp [add, contains, known, List.removeAll, again]
    · have fresh : value ∉ (addAll {} earlier).items := by
        rw [ih]
        exact fun known => again (List.mem_eraseDups.mp known)
      simp [add, contains, fresh, List.removeAll, again, List.eraseDups_cons]

end OrderedSet

/-! ### The names of queries -/

namespace Declared

theorem query_eq_none_iff {d : Declared} {name : Text} :
    d.query? name = none ↔ name ∉ d.queries.map QueryDecl.name := by
  simp [query?]

theorem names_add (d : Declared) (n : Node) : (d.add n).queries.map QueryDecl.name =
    (OrderedSet.add ⟨d.queries.map QueryDecl.name⟩ n.signature).items := by
  unfold add
  split
  · rename_i q shared
    have known : n.signature ∈ d.queries.map QueryDecl.name := by
      by_contra absent
      rw [query_eq_none_iff.mpr absent] at shared
      cases shared
    have unchanged : (OrderedSet.add ⟨d.queries.map QueryDecl.name⟩ n.signature).items =
        d.queries.map QueryDecl.name := by
      simp [OrderedSet.add, OrderedSet.contains, known]
    rw [unchanged]
    split <;> rfl
  · rename_i absent
    have fresh := query_eq_none_iff.mp absent
    simp [OrderedSet.add, OrderedSet.contains, fresh]

theorem names_foldl_add (nodes : List Node) (d : Declared) :
    (nodes.foldl add d).queries.map QueryDecl.name =
      (OrderedSet.addAll ⟨d.queries.map QueryDecl.name⟩ (nodes.map Node.signature)).items := by
  induction nodes generalizing d with
  | nil => rfl
  | cons n rest ih =>
    rw [List.foldl_cons, ih, names_add]
    rfl

theorem names_ofNodes (nodes : List Node) : (ofNodes nodes).queries.map QueryDecl.name =
    (OrderedSet.addAll {} (nodes.map Node.signature)).items :=
  names_foldl_add nodes {}

end Declared

/-! ### Loops drawn from declarations -/

namespace Loop

/-- The lines that bind a parameter to an item of a storage. -/
def bindingTo (index query storage : Text) (used : List Text) (p : Param) : Text :=
  if !isBound p then [] else
  let bound : Text := "\t" ++ p.name ++ " := &" ++ storage ++ ".Items[" ++ query ++ ".Entities["
    ++ index ++ "]]\n"
  if used.contains p.name then bound else bound ++ "\t_ = " ++ p.name ++ "\n"

end Loop

namespace Assembly

def storageOf (runtime lead type : Text) : PoolField :=
  { field := Loop.poolName lead type, type, init := runtime ++ ".GetPool[" ++ type ++ "](world)" }

/-- The loop over a declared query, around the pieces of its body. Parameters come with the declared
storage of their type. -/
def loopOver (a : Assembly) (depth : UInt64) (query : QueryField) (bound : List (Param × PoolField))
    (enclosed : List Loop.Rendered) : Loop.Rendered :=
  let index := Loop.indexName depth
  let source := a.qualified query.field
  let used := enclosed.flatMap Loop.Rendered.free
  let body := Text.unlines (enclosed.map Loop.Rendered.text)
  let inner := if body.isEmpty then [] else Source.indentBy 1 body ++ [Text.newline]
  { text := Loop.header index source
      ++ bound.flatMap (fun b => Loop.bindingTo index source (a.qualified b.2.field) used b.1)
      ++ inner ++ "\x7d"
    free := Loop.freeNames (bound.map Prod.fst) used }

/-- The pieces of a body are its statements, and loops over declared queries that bind items of
declared storage, with loops of the same kind inside. -/
inductive Drawn (a : Assembly) (nodes : List Node) : Template → List Loop.Rendered → Prop where
  | nil : Drawn a nodes [] []
  | text (kept : Text) (rest : Drawn a nodes segments pieces) :
      Drawn a nodes (.text kept :: segments) (⟨kept, Source.identifiers kept⟩ :: pieces)
  | loop (present : n ∈ nodes) (declared : query ∈ a.queries) (named : query.field = n.signature)
      (binds : bound.map Prod.fst = n.bindings)
      (stored : ∀ b ∈ bound, b.2 ∈ a.pools ∧ b.2.type = b.1.type)
      (inside : Drawn a nodes n.body enclosed) (rest : Drawn a nodes segments pieces) :
      Drawn a nodes (.hole n.key :: segments) (a.loopOver n.key.depth query bound enclosed :: pieces)

/-- A unit declares what a node needs: its query, and a storage for every component type. -/
def Declares (a : Assembly) (lead : Text) (n : Node) : Prop :=
  (∃ query ∈ a.queries, query.field = n.signature) ∧
    ∀ type ∈ n.types, storageOf a.runtime lead type ∈ a.pools

/-- Loops address the fields of a unit. -/
structure Reads (a : Assembly) (lo : LoopOptions) : Prop where
  receiver_eq : lo.receiver = a.receiver
  receiver_ne : a.receiver ≠ []

variable {a : Assembly} {lo : LoopOptions} {n : Node}

theorem Reads.field_eq (reads : Reads a lo) (name : Text) : Loop.field lo name = a.qualified name := by
  simp [Loop.field, qualified, reads.receiver_eq, reads.receiver_ne]

theorem Reads.around_eq (reads : Reads a lo) {query : QueryField} (named : query.field = n.signature)
    (runtime : Text) (enclosed : List Loop.Rendered) :
    Loop.around lo n enclosed = a.loopOver n.key.depth query
      (n.bindings.map fun p => (p, storageOf runtime lo.poolLead p.type)) enclosed := by
  have bindings (index source : Text) (used : List Text) :
      n.bindings.flatMap (Loop.binding lo index source used) =
        (n.bindings.map fun p => (p, storageOf runtime lo.poolLead p.type)).flatMap
          fun b => Loop.bindingTo index source (a.qualified b.2.field) used b.1 := by
    rw [List.flatMap_map]
    apply List.flatMap_congr
    intro p _
    simp only [Loop.binding, Loop.bindingTo, reads.field_eq, storageOf]
  simp [Loop.around, Loop.frame, loopOver, reads.field_eq, bindings, named, Function.comp_def]

/-- What a rendering renders is drawn from declarations, as long as they cover the nodes. -/
theorem Reads.drawn (reads : Reads a lo) {nodes : List Node}
    (covered : ∀ n ∈ nodes, a.Declares lo.poolLead n)
    (rendering : Loop.Rendering lo above arena segments pieces met left)
    (among : ∀ n ∈ arena.slots, n ∈ nodes) : Drawn a nodes segments pieces := by
  induction rendering with
  | nil => exact .nil
  | text _ ih => exact .text _ (ih among)
  | @loop _ _ _ _ _ _ _ _ _ arena key n _ taken inside _ ihInside ihRest =>
    obtain ⟨-, found, -⟩ := Arena.claim_cases taken
    obtain rfl := Arena.key_of_lookup found
    have present := among n (Arena.mem_of_lookup found)
    obtain ⟨⟨query, declared, named⟩, stored⟩ := covered n present
    -- rendering only takes nodes out, so what is rendered later is among the same nodes
    have fewer (met : List Key) : ∀ m ∈ (arena.without met).slots, m ∈ nodes :=
      fun m member => among m (Arena.mem_slots_without.mp member).1
    rw [Arena.eq_without_of_claim taken] at ihInside
    rw [inside.left_eq, Arena.eq_without_of_claim taken, Arena.without_without] at ihRest
    rw [reads.around_eq named a.runtime]
    refine .loop present declared named ?_ ?_ (ihInside (fewer _)) (ihRest (fewer _))
    · simp [Function.comp_def]
    · intro b member
      obtain ⟨p, bound, rfl⟩ := List.mem_map.mp member
      exact ⟨stored p.type (List.mem_map_of_mem bound), rfl⟩

/-! ### The unit of a method -/

theorem receiverOf_ne_nil (a : Analysis) : receiverOf a ≠ [] := by
  unfold receiverOf
  split
  · decide
  · rename_i own
    intro unnamed
    simp [unnamed] at own

theorem fields_of_ofAnalysis {a : Analysis} {options : UnitOptions} {parts : Assembly}
    {warnings : List Diagnostic} (assembled : ofAnalysis a options = .ok (parts, warnings)) :
    parts.receiver = receiverOf a ∧
      parts.pools = (a.storageTypes.getD []).map
        (storageOf parts.runtime options.complete.poolLead) ∧
      ∃ texts left, renderPreamble (loopOptions a options) (a.arena.getD .empty).clone a.preamble =
        (.ok texts, left) ∧ parts.body = Source.indentBy 1 (Text.unlines texts) := by
  unfold ofAnalysis at assembled
  split at assembled
  · cases assembled
  · dsimp only at assembled
    split at assembled
    · cases assembled
    · rename_i texts rendered
      cases assembled
      exact ⟨rfl, rfl, texts, _, Prod.ext rendered rfl, rfl⟩

end Assembly

namespace GeneratedUnit

def finish (o : UnitOptions) (text : Text) : Except Fault (Option Text) :=
  if o.format then Source.tidy? text else .ok (some text)

/-- A method has a unit exactly when its nodes fit together and its parts can be put into final form.
The unit tells what was found on the way. -/
theorem ofAnalysis_eq_ok {a : Analysis} {options : UnitOptions} {u : GeneratedUnit} :
    ofAnalysis a options = .ok u ↔ a.validate = .ok () ∧ ∃ parts warnings source,
      Assembly.ofAnalysis a options.complete = .ok (parts, warnings) ∧
      finish options.complete (Layout.render { parts with digest := a.digest }) = .ok (some source) ∧
      u = { system := a.system
            fileName := Identifier.fileName a.system options.complete.outputSuffix, source
            digest := a.digest, diagnostics := a.diagnostics ++ warnings } := by
  constructor
  · intro generated
    unfold ofAnalysis at generated
    split at generated
    · cases generated
    · rename_i validated
      dsimp only at generated
      split at generated
      · cases generated
      · rename_i parts warnings assembled
        split at generated
        · cases generated
        · cases generated
        · rename_i source finished
          cases generated
          exact ⟨validated, parts, warnings, source, assembled, finished, rfl⟩
  · rintro ⟨validated, parts, warnings, source, assembled, finished, rfl⟩
    simp only [finish] at finished
    simp only [ofAnalysis, validated, assembled, finished]

end GeneratedUnit

namespace Method

open Assembly (Drawn)

variable {m : Method} {o : WalkOptions} {options : UnitOptions} {a : Analysis} {parts : Assembly}
  {warnings : List Diagnostic}

/-- The walk gathers the names of its nodes and their component types, each where it is first met. -/
theorem gathered (analysed : analyse (some m) o = .ok a) :
    a.signatureNames = some (a.nodes.map Node.signature).eraseDups ∧
      a.storageTypes = some (a.nodes.flatMap Node.types).eraseDups := by
  obtain ⟨preamble, nodes, findings, growth, distinct, rfl⟩ := growth_of_analyse analysed
  rw [nodes_analysis distinct, ← OrderedSet.items_addAll, ← OrderedSet.items_addAll]
  exact ⟨rfl, rfl⟩

theorem declared_eq_gathered (analysed : analyse (some m) o = .ok a)
    (assembled : Assembly.ofAnalysis a options = .ok (parts, warnings)) :
    a.signatureNames = some (parts.queries.map QueryField.field) ∧
      a.storageTypes = some (parts.pools.map PoolField.type) := by
  obtain ⟨signatures, storage⟩ := gathered analysed
  constructor
  · rw [signatures, (Assembly.declared_of_ofAnalysis assembled).1, ← OrderedSet.items_addAll,
      ← Declared.names_ofNodes]
    simp [Function.comp_def]
  · rw [(Assembly.fields_of_ofAnalysis assembled).2.1, storage]
    simp [Function.comp_def, Assembly.storageOf]

theorem declares (analysed : analyse (some m) o = .ok a)
    (assembled : Assembly.ofAnalysis a options = .ok (parts, warnings)) :
    ∀ n ∈ a.nodes, parts.Declares options.complete.poolLead n := by
  obtain ⟨signatures, storage⟩ := gathered analysed
  intro n member
  constructor
  · have gathered : n.signature ∈ (a.nodes.map Node.signature).eraseDups :=
      List.mem_eraseDups.mpr (List.mem_map_of_mem member)
    have declared := (declared_eq_gathered analysed assembled).1
    rw [signatures, Option.some.injEq] at declared
    rw [declared] at gathered
    exact List.mem_map.mp gathered
  · intro type bound
    rw [(Assembly.fields_of_ofAnalysis assembled).2.1, storage]
    exact List.mem_map_of_mem
      (List.mem_eraseDups.mpr (List.mem_flatMap.mpr ⟨n, member, bound⟩))

/-- The body of the unit of an analysed method is drawn from its declarations. -/
theorem drawn_of_analyse (analysed : analyse (some m) o = .ok a)
    (assembled : Assembly.ofAnalysis a options = .ok (parts, warnings)) :
    ∃ pieces, parts.body = Source.indentBy 1 (Text.unlines (pieces.map Loop.Rendered.text)) ∧
      Drawn parts a.nodes a.preamble pieces := by
  have declares := declares analysed assembled
  obtain ⟨receiver, -, texts, left, rendered, body⟩ := Assembly.fields_of_ofAnalysis assembled
  obtain ⟨preamble, nodes, findings, growth, distinct, rfl⟩ := growth_of_analyse analysed
  have rendering := rendering_of_growth growth distinct options
  have same := rendered.symm.trans rendering.preamble_eq
  simp only [Prod.mk.injEq, Except.ok.injEq] at same
  have reads : parts.Reads (Assembly.loopOptions (m.analysis preamble nodes findings) options) :=
    ⟨receiver.symm, receiver ▸ Assembly.receiverOf_ne_nil _⟩
  refine ⟨_, same.1 ▸ body, reads.drawn declares rendering ?_⟩
  intro n member
  rw [Arena.clone_eq, Arena.nodes_ofNodes distinct] at member
  rw [nodes_analysis distinct]
  exact member

/-- The names that the walk gathers are those of the declared queries, and the types those of the
declared storage, each once and in the order in which they are first met; and the loops of the unit
read nothing but the query and the storage declared for them. There is an analysed form as long as
there is a machine word for every call. -/
theorem declarations_cover (m : Method) (o : WalkOptions) (options : UnitOptions)
    (named : o.names.each ≠ []) (valid : m.system.isValid = true) :
    ((Expansion.calls o.names 0 m.body).length ≤ UInt64.size → ∃ a, analyse (some m) o = .ok a) ∧
      ∀ a, analyse (some m) o = .ok a → ∃ parts warnings pieces,
        Assembly.ofAnalysis a options = .ok (parts, warnings) ∧
        a.signatureNames = some (parts.queries.map QueryField.field) ∧
        parts.queries.map QueryField.field = (a.nodes.map Node.signature).eraseDups ∧
        (parts.queries.map QueryField.field).Nodup ∧
        a.storageTypes = some (parts.pools.map PoolField.type) ∧
        parts.pools.map PoolField.type = (a.nodes.flatMap Node.types).eraseDups ∧
        (parts.pools.map PoolField.type).Nodup ∧
        parts.body = Source.indentBy 1 (Text.unlines (pieces.map Loop.Rendered.text)) ∧
        Drawn parts a.nodes a.preamble pieces := by
  refine ⟨exists_analysis named, fun a analysed => ?_⟩
  obtain ⟨parts, warnings, assembled, -⟩ := unit_of_analyse valid analysed options
  obtain ⟨pieces, body, drawn⟩ := drawn_of_analyse analysed assembled
  obtain ⟨queries, pools⟩ := declared_eq_gathered analysed assembled
  obtain ⟨signatures, storage⟩ := gathered analysed
  have names := Option.some.inj (queries.symm.trans signatures)
  have types := Option.some.inj (pools.symm.trans storage)
  refine ⟨parts, warnings, pieces, assembled, queries, names, ?_, pools, types, ?_, body, drawn⟩
  · rw [names, ← OrderedSet.items_addAll]
    exact OrderedSet.nodup_addAll .nil _
  · rw [types, ← OrderedSet.items_addAll]
    exact OrderedSet.nodup_addAll .nil _

/-- Two loops, one inside the other, over three component types. -/
theorem declarations_cover_nested :
    ∃ a parts warnings pieces, analyse (some nested) {} = .ok a ∧
      Assembly.ofAnalysis a {} = .ok (parts, warnings) ∧
      parts.queries.map QueryField.field = ["query_geo_Pos_Tag", "query_Vel"] ∧
      parts.pools.map PoolField.type = ["geo.Pos", "Tag", "Vel"] ∧
      Drawn parts a.nodes a.preamble pieces := by
  obtain ⟨analysable, covered⟩ := declarations_cover nested {} {} (by decide) (by decide)
  obtain ⟨a, analysed, signatures, types⟩ : ∃ a, analyse (some nested) {} = .ok a ∧
      a.signatureNames = some [Text.ofString "query_geo_Pos_Tag", Text.ofString "query_Vel"] ∧
        a.storageTypes = some [Text.ofString "geo.Pos", Text.ofString "Tag", Text.ofString "Vel"] :=
    ⟨_, rfl, by decide +kernel, by decide +kernel⟩
  obtain ⟨parts, warnings, pieces, assembled, queries, -, -, pools, -, -, -, drawn⟩ :=
    covered a analysed
  refine ⟨a, parts, warnings, pieces, analysed, assembled, ?_, ?_, drawn⟩
  · exact Option.some.inj (queries.symm.trans signatures)
  · exact Option.some.inj (pools.symm.trans types)

end Method

end SystemLoops
