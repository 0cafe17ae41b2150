import SystemLoops.Proofs.Declarations
import SystemLoops.Proofs.Unplaced

/-!
Units and positions. What is made of an analysis reads no position either: the check of its nodes, its
canonical form, the merging of queries and the rendering of loops come out the same without positions,
and the unit names its file without directories. Main statement: where a method and its statements
stand does not show in its unit.
-/

namespace SystemLoops

/-- The name of the file without its directories, for positions that name a file. -/
def Position.baseName? (p : Position) : Option Text :=
  if p.file.isEmpty then none else some (Path.base p.file)

/-! ### Rendering -/

namespace Loop

mutual

theorem renderNode_unplaced (o : LoopOptions) (a : Arena) (key : Key) :
    (renderNode o a.unplaced key).result = (renderNode o a key).result.map id Arena.unplaced := by
  -- the induction is on the nodes that are left to claim, then on the pieces that are left to render
  have moved := a.claim_unplaced key
  cases taken : a.claim key with
  | error f =>
    rw [taken] at moved
    rw [renderNode_refused taken, renderNode_refused moved]
    rfl
  | ok claimed =>
    obtain ⟨n, left⟩ := claimed
    rw [taken] at moved
    have fewer := Arena.size_claim_lt taken
    rw [renderNode_taken taken, renderNode_taken moved, Node.key_unplaced, Node.body_unplaced,
      renderSegments_unplaced o n.key left n.body]
    rfl
termination_by (a.size, 0)

theorem renderSegments_unplaced (o : LoopOptions) (parent : Key) (a : Arena) (segments : Template) :
    (renderSegments o parent a.unplaced segments).result =
      (renderSegments o parent a segments).result.map id Arena.unplaced := by
  match segments with
  | [] => rw [renderSegments_nil, renderSegments_nil]; rfl
  | .text source :: rest =>
    rw [renderSegments_text, renderSegments_text, renderSegments_unplaced o parent a rest]
    rfl
  | .hole key :: rest =>
    rw [renderSegments_hole, renderSegments_hole, renderNode_unplaced o a key]
    split
    · cases child : (renderNode o a key).result with
      | mk outcome left =>
        -- the rest is rendered in what the loop left over, which is no larger
        have bound : left.size ≤ a.size := by
          rw [← show (renderNode o a key).arena = left from congrArg Prod.snd child]
          exact (renderNode o a key).no_larger
        cases outcome with
        | error f => rfl
        | ok piece =>
          simp only [Prod.map, id_eq]
          rw [renderSegments_unplaced o parent left rest]
          rfl
    · rfl
termination_by (a.size, segments.length + 1)
decreasing_by
  · exact Prod.Lex.right _ (by simp)
  · exact Prod.Lex.right _ (by simp)
  · exact Prod.Lex.right' _ bound (by simp)

end

end Loop

/-! ### Checks and digests -/

namespace Analysis

theorem nodes_unplaced (a : Analysis) : a.unplaced.nodes = a.nodes.map Node.unplaced := by
  cases registered : a.arena with
  | none => simp [nodes, unplaced, registered, Arena.nodes, Arena.empty]
  | some arena => simp [nodes, unplaced, registered, Arena.nodes_unplaced]

theorem own_unplaced (a : Analysis) (arena : Arena) (owners : Owners) (key : Key) (parent : Text) :
    a.unplaced.own arena.unplaced owners key parent = a.own arena owners key parent := by
  simp only [own, Arena.lookup_unplaced, Option.isNone_map]
  rfl

theorem ownTopLevel_unplaced (a : Analysis) (arena : Arena) (owners : Owners) (keys : List Key) :
    a.unplaced.ownTopLevel arena.unplaced owners keys = a.ownTopLevel arena owners keys := by
  induction keys generalizing owners with
  | nil => rfl
  | cons key rest ih => simp only [ownTopLevel, own_unplaced, ih]

theorem ownChildren_unplaced (a : Analysis) (arena : Arena) (n : Node) (owners : Owners)
    (keys : List Key) : a.unplaced.ownChildren arena.unplaced n.unplaced owners keys =
      a.ownChildren arena n owners keys := by
  induction keys generalizing owners with
  | nil => rfl
  | cons key rest ih =>
    simp only [ownChildren, own_unplaced, ih, Node.key_unplaced]
    rfl

theorem ownNodes_unplaced (a : Analysis) (arena : Arena) (owners : Owners) (nodes : List Node) :
    a.unplaced.ownNodes arena.unplaced owners (nodes.map Node.unplaced) =
      a.ownNodes arena owners nodes := by
  induction nodes generalizing owners with
  | nil => rfl
  | cons n rest ih =>
    simp only [List.map_cons, ownNodes, Node.body_unplaced, ownChildren_unplaced, ih]

/-- Nodes fit together without positions exactly when they do with them. -/
theorem validate_unplaced (a : Analysis) : a.unplaced.validate = a.validate := by
  have preamble : a.unplaced.preamble = a.preamble := rfl
  have arena : a.unplaced.arena = a.arena.map Arena.unplaced := rfl
  unfold validate
  rw [arena, preamble]
  cases a.arena with
  | none => rfl
  | some arena =>
    simp only [Option.map_some, ownTopLevel_unplaced, Arena.nodes_unplaced, ownNodes_unplaced]

/-- The canonical form, and with it the digest, leaves positions out. -/
theorem digest_unplaced (a : Analysis) : a.unplaced.digest = a.digest := by
  have nodes : a.unplaced.nodes.map canonicalNode = a.nodes.map canonicalNode := by
    rw [nodes_unplaced, List.map_map]
    rfl
  simp only [digest, canonicalBytes, canonical, nodes]
  rfl

end Analysis

/-! ### The parts of a unit -/

theorem Declared.ofNodes_unplaced (nodes : List Node) :
    ofNodes (nodes.map Node.unplaced) = ofNodes nodes := by
  unfold ofNodes
  rw [List.foldl_map]
  rfl

namespace Assembly

theorem conflictWarning_unplaced (arena : Arena) (c : Conflict) :
    conflictWarning arena.unplaced c = (conflictWarning arena c).unplaced := by
  simp only [conflictWarning, Arena.lookup_unplaced]
  cases arena.lookup? c.node <;> rfl

theorem renderPreamble_unplaced (o : LoopOptions) (arena : Arena) (preamble : Template) :
    renderPreamble o arena.unplaced preamble =
      (renderPreamble o arena preamble).map id Arena.unplaced := by
  induction preamble generalizing arena with
  | nil => rfl
  | cons segment rest ih =>
    cases segment with
    | text source =>
      simp only [renderPreamble, ih]
      rfl
    | hole key =>
      simp only [renderPreamble, Loop.render_eq, Loop.renderNode_unplaced]
      cases (Loop.renderNode o arena key).result with
      | mk outcome left =>
        cases outcome with
        | error f => rfl
        | ok loop =>
          simp only [Prod.map, Except.map, id_eq, ih]

theorem ofAnalysis_unplaced (a : Analysis) (options : UnitOptions) :
    (ofAnalysis a options).map (Prod.map id (List.map Diagnostic.unplaced)) =
      (ofAnalysis a.unplaced options).map
        (Prod.map (fun parts => { parts with source := a.position.baseName?.getD [] }) id) := by
  have system : a.unplaced.system = a.system := rfl
  have preamble : a.unplaced.preamble = a.preamble := rfl
  have loops : loopOptions a.unplaced options = loopOptions a options := rfl
  have registered : a.unplaced.arena.getD .empty = (a.arena.getD .empty).unplaced := by
    cases found : a.arena with
    | none => rw [Analysis.unplaced, found]; rfl
    | some arena => rw [Analysis.unplaced, found]; rfl
  have rendered := congrArg Prod.fst (renderPreamble_unplaced (loopOptions a options)
    (a.arena.getD .empty).clone a.preamble)
  have warned := funext (conflictWarning_unplaced (a.arena.getD .empty))
  have file : (if a.position.file.isEmpty then [] else Path.base a.position.file) =
      a.position.baseName?.getD [] := by
    unfold Position.baseName?
    split <;> rfl
  unfold ofAnalysis
  rw [system, loops, preamble, file]
  cases Identifier.lowerFirst a.system with
  | error f => rfl
  | ok lowered =>
    simp only [registered, Arena.nodes_unplaced, Declared.ofNodes_unplaced, Arena.clone_unplaced,
      rendered, warned, Prod.map_fst, id_eq]
    cases (renderPreamble (loopOptions a options) (a.arena.getD .empty).clone a.preamble).1 with
    | error f => rfl
    | ok parts =>
      simp only [Except.map, Prod.map, List.map_map]
      rfl

variable {a b : Analysis}

/-- Analyses that are alike but for positions, of files with one base name, have units with the same
parts. -/
theorem ofAnalysis_congr (same : a.unplaced = b.unplaced)
    (beside : a.position.baseName? = b.position.baseName?) (options : UnitOptions) :
    (ofAnalysis a options).map (Prod.map id (List.map Diagnostic.unplaced)) =
      (ofAnalysis b options).map (Prod.map id (List.map Diagnostic.unplaced)) := by
  rw [ofAnalysis_unplaced, ofAnalysis_unplaced, same, beside]

end Assembly

/-! ### Units -/

theorem alike_of_map_eq {x y : Except ε α} {f : α → β} (same : x.map f = y.map f) :
    (∃ t, x = .error t ∧ y = .error t) ∨ ∃ u v, x = .ok u ∧ y = .ok v ∧ f u = f v := by
  cases x with
  | error t =>
    cases y with
    | error t' =>
      cases same
      exact .inl ⟨t, rfl, rfl⟩
    | ok v => cases same
  | ok u =>
    cases y with
    | error t => cases same
    | ok v => exact .inr ⟨u, v, rfl, rfl, Except.ok.inj same⟩

/-- A unit whose findings stand nowhere. -/
def GeneratedUnit.unplaced (u : GeneratedUnit) : GeneratedUnit :=
  { u with diagnostics := u.diagnostics.map Diagnostic.unplaced }

/-- Analyses that are alike but for positions, of files with one base name, have the same unit but for
the positions of its findings. -/
theorem GeneratedUnit.ofAnalysis_congr {a b : Analysis} (same : a.unplaced = b.unplaced)
    (beside : a.position.baseName? = b.position.baseName?) (options : UnitOptions) :
    (ofAnalysis a options).map unplaced = (ofAnalysis b options).map unplaced := by
  have system : a.system = b.system := (congrArg Analysis.system same :)
  have found : a.diagnostics.map Diagnostic.unplaced = b.diagnostics.map Diagnostic.unplaced :=
    (congrArg Analysis.diagnostics same :)
  have fits : a.validate = b.validate := by
    rw [← a.validate_unplaced, same, b.validate_unplaced]
  have digest : a.digest = b.digest := by
    rw [← a.digest_unplaced, same, b.digest_unplaced]
  unfold ofAnalysis
  rw [system, fits, digest]
  cases b.validate with
  | error f => rfl
  | ok =>
    rcases alike_of_map_eq (Assembly.ofAnalysis_congr same beside options.complete) with
      ⟨t, first, second⟩ | ⟨⟨parts, warnings⟩, ⟨parts', warnings'⟩, first, second, alike⟩
    · simp only [first, second]
    · obtain ⟨shared, merged⟩ := Prod.mk.inj alike
      obtain rfl : parts = parts' := shared
      simp only [first, second]
      split
      · rfl
      · rfl
      · simp only [Except.map, unplaced, List.map_append, found, merged]

/-! ### The unit of a method -/

/-- Two findings say the same, wherever they were made. -/
def Diagnostic.SaysAs (d e : Diagnostic) : Prop :=
  d.severity = e.severity ∧ d.message = e.message ∧ d.suggestion = e.suggestion

theorem Diagnostic.saysAs_of_unplaced_eq {d e : Diagnostic} (same : d.unplaced = e.unplaced) :
    d.SaysAs e :=
  ⟨(congrArg severity same :), (congrArg message same :), (congrArg suggestion same :)⟩

theorem Diagnostic.forall_saysAs {ds es : List Diagnostic}
    (same : ds.map unplaced = es.map unplaced) : List.Forall₂ SaysAs ds es := by
  have equal : List.Forall₂ Eq (ds.map unplaced) (es.map unplaced) := by
    rw [List.forall₂_eq_eq_eq]
    exact same
  rw [List.forall₂_map_left_iff, List.forall₂_map_right_iff] at equal
  exact equal.imp fun _ _ => saysAs_of_unplaced_eq

namespace Method

variable {m m' : Method}

/-- Methods that are alike but for positions are analysed alike. -/
theorem analyse_congr (same : m.unplaced = m'.unplaced) (o : WalkOptions) :
    (analyse (some m) o).map Analysis.unplaced = (analyse (some m') o).map Analysis.unplaced := by
  rw [← analyse_unplaced, same, analyse_unplaced]

/-- Where a method and its statements stand does not show in its unit. Methods that are alike but for
positions, of files with one base name, are refused for the same reason by the walk or by the generator,
or both have a unit: of one text under one name, with one digest. What is found on the way says the
same of both, and differs in its positions at most. -/
theorem unit_regardless_of_position (same : m.unplaced = m'.unplaced)
    (beside : m.position.baseName? = m'.position.baseName?) (o : WalkOptions) (options : UnitOptions) :
    (∃ t, analyse (some m) o = .error t ∧ analyse (some m') o = .error t) ∨
      ∃ a a', analyse (some m) o = .ok a ∧ analyse (some m') o = .ok a' ∧
        List.Forall₂ Diagnostic.SaysAs a.diagnostics a'.diagnostics ∧
        ((∃ t, GeneratedUnit.ofAnalysis a options = .error t ∧
            GeneratedUnit.ofAnalysis a' options = .error t) ∨
          ∃ u u', GeneratedUnit.ofAnalysis a options = .ok u ∧
            GeneratedUnit.ofAnalysis a' options = .ok u' ∧
            u.system = u'.system ∧ u.fileName = u'.fileName ∧ u.source = u'.source ∧
            u.digest = u'.digest ∧ List.Forall₂ Diagnostic.SaysAs u.diagnostics u'.diagnostics) := by
  rcases alike_of_map_eq (analyse_congr same o) with refused | ⟨a, a', first, second, alike⟩
  · exact .inl refused
  · have met : List.Forall₂ Diagnostic.SaysAs a.diagnostics a'.diagnostics :=
      Diagnostic.forall_saysAs (congrArg Analysis.diagnostics alike :)
    rw [← position_of_analyse first, ← position_of_analyse second] at beside
    refine .inr ⟨a, a', first, second, met, ?_⟩
    rcases alike_of_map_eq (GeneratedUnit.ofAnalysis_congr alike beside options) with
      refused | ⟨u, u', made, made', agreed⟩
    · exact .inl refused
    · obtain ⟨system, fileName, source, digest, found⟩ := GeneratedUnit.mk.inj agreed
      exact .inr ⟨u, u', made, made', system, fileName, source, digest,
        Diagnostic.forall_saysAs found⟩

/-- A method in a file, with two loops over one component that leave out different components, the
first with a parameter without a component type. -/
def inFile (file : Text) (line : Int) : Method :=
  { system := "Motion"
    receiver := "m"
    position := ⟨file, line, 1⟩
    body := [
      .callWith "m.Each(f)" ⟨file, line + 1, 2⟩ [⟨"Each", []⟩] (some [⟨"Pos", "p"⟩, ⟨[], "q"⟩]) true
        [.text "use(p)" ⟨file, line + 2, 3⟩],
      .callWith "m.Without[Idle]().Each(g)" ⟨file, line + 4, 2⟩ [⟨"Without", ["Idle"]⟩, ⟨"Each", []⟩]
        (some [⟨"Pos", "p"⟩]) true [.text "use(p)" ⟨file, line + 5, 3⟩]] }

/-- Two checkouts of one file, in one of which the method stands further down: the findings are placed
differently, and the units are the same. -/
theorem unit_regardless_of_position_checkouts :
    ∃ a a' u u', analyse (some (inFile "first/move.go" 3)) {} = .ok a ∧
      analyse (some (inFile "second/move.go" 40)) {} = .ok a' ∧ a.diagnostics ≠ a'.diagnostics ∧
      GeneratedUnit.ofAnalysis a { format := false } = .ok u ∧
      GeneratedUnit.ofAnalysis a' { format := false } = .ok u' ∧ u.source = u'.source ∧
      u.digest = u'.digest ∧ List.Forall₂ Diagnostic.SaysAs u.diagnostics u'.diagnostics := by
  have alike : (inFile "first/move.go" 3).unplaced = (inFile "second/move.go" 40).unplaced := rfl
  have beside : (inFile "first/move.go" 3).position.baseName? =
      (inFile "second/move.go" 40).position.baseName? := by decide +kernel
  obtain ⟨a, first, fits, placed⟩ : ∃ a, analyse (some (inFile "first/move.go" 3)) {} = .ok a ∧
      a.validate = .ok () ∧ a.diagnostics.map (Position.line ∘ Diagnostic.position) = [4] :=
    ⟨_, rfl, rfl, by decide +kernel⟩
  obtain ⟨a', second, placed'⟩ : ∃ a', analyse (some (inFile "second/move.go" 40)) {} = .ok a' ∧
      a'.diagnostics.map (Position.line ∘ Diagnostic.position) = [41] :=
    ⟨_, rfl, by decide +kernel⟩
  have apart : a.diagnostics ≠ a'.diagnostics := by
    intro equal
    rw [equal, placed'] at placed
    exact absurd placed (by decide)
  obtain ⟨parts, warnings, assembled, -⟩ :=
    unit_of_analyse (by decide) first ({ format := false } : UnitOptions).complete
  have generated := GeneratedUnit.ofAnalysis_eq_ok.mpr
    ⟨fits, parts, warnings, _, assembled, rfl, rfl⟩
  rcases unit_regardless_of_position alike beside {} { format := false } with
    ⟨t, refused, -⟩ | ⟨b, b', walked, walked', -, outcome⟩
  · cases first.symm.trans refused
  · cases first.symm.trans walked
    cases second.symm.trans walked'
    rcases outcome with ⟨t, refused, -⟩ | ⟨u, u', made, made', -, -, source, digest, found⟩
    · cases generated.symm.trans refused
    · exact ⟨a, a', u, u', first, second, apart, made, made', source, digest, found⟩

end Method

end SystemLoops
