import SystemLoops.Proofs.Rendering
import SystemLoops.Proofs.WalkGrowth

/-!
The direct expansion of a body, by recursion on its statements, with neither keys nor an arena: a call
of the combinator becomes a loop around the expansion of its own body, and every other statement stays
as it is. Main statement: walking a method and rendering what the walk has registered gives the direct
expansion of the method, byte for byte.
-/

namespace SystemLoops

open Loop (Rendered)

namespace Expansion

/-- How the expansion of a method names things. -/
structure Style where
  names : Combinators
  queryLead : Text
  receiver : Text
  poolLead : Text

def Style.of (m : Method) (o : WalkOptions) (options : UnitOptions) : Style :=
  { names := o.names
    queryLead := if o.queryLead = [] then "query_" else o.queryLead
    receiver := if m.receiver = [] ∨ m.receiver = Text.ofString "_" then "sys" else m.receiver
    poolLead := if options.poolLead = [] then "pool" else options.poolLead }

/-- A statement kept as it stands reads every identifier in it. -/
def verbatim (source : Text) : Rendered :=
  { text := source, free := Source.identifiers source }

/-- The lines that bind a parameter: none unless it has a name, and a blank use when the body does not
read it. -/
def bindingLines (s : Style) (index query : Text) (used : List Text) (p : Param) : List Text :=
  if p.name = [] ∨ p.name = Text.ofString "_" then []
  else
    let bound : Text := "\t" ++ p.name ++ " := &" ++ s.receiver ++ "." ++ s.poolLead
      ++ Identifier.sanitize p.type ++ ".Items[" ++ query ++ ".Entities[" ++ index ++ "]]"
    if p.name ∈ used then [bound] else [bound, "\t_ = " ++ p.name]

/-- The lines of a loop over typed parameters, around a body that is one text of several lines. -/
def loopLines (s : Style) (depth : Nat) (typed : List Param) (inner : Text) (used : List Text) :
    List Text :=
  let index : Text := "index" ++ Text.ofNat depth
  let query := s.receiver ++ "." ++ Signature.name s.queryLead (typed.map Param.type)
  let head : Text := "for " ++ index ++ " := 0; " ++ index ++ " < " ++ query ++ ".Count(); " ++ index
    ++ "++ \x7b"
  let indented := if inner = [] then [] else [Source.indentBy 1 inner]
  head :: typed.flatMap (bindingLines s index query used) ++ indented ++ [Text.ofString "\x7d"]

/-- The loop of a call: parameters without a component type take no part. -/
def loop (s : Style) (depth : Nat) (params : List Param) (pieces : List Rendered) : Rendered :=
  let typed := params.filter fun p => p.type ≠ []
  let used := pieces.flatMap Rendered.free
  { text := Text.unlines (loopLines s depth typed (Text.unlines (pieces.map Rendered.text)) used)
    free := used.filter fun name => name ∉ typed.map Param.name }

mutual

def stmt (s : Style) (depth : Nat) : Stmt → Rendered
  | .callWith source position chain params hasBody inner =>
    if (Classified.of s.names (.callWith source position chain params hasBody inner)).isIteration then
      if depth < 6 then loop s depth (params.getD []) (body s (depth + 1) inner)
      else verbatim Walker.truncatedComment
    else verbatim source
  | st => verbatim st.source

/-- The expansion of the statements of a body, in order. -/
def body (s : Style) (depth : Nat) : List Stmt → List Rendered
  | [] => []
  | st :: rest => stmt s depth st :: body s depth rest

end

mutual

/-- The calls in a statement at a depth that are expanded, with their depths, outer ones first. -/
def callsIn (names : Combinators) (depth : Nat) : Stmt → List (Nat × Stmt)
  | .callWith source position chain params hasBody inner =>
    if (Classified.of names (.callWith source position chain params hasBody inner)).isIteration
        ∧ depth < 6 then
      (depth, .callWith source position chain params hasBody inner) :: calls names (depth + 1) inner
    else []
  | _ => []

/-- The calls in the statements of a body that are expanded, in pre-order. -/
def calls (names : Combinators) (depth : Nat) : List Stmt → List (Nat × Stmt)
  | [] => []
  | st :: rest => callsIn names depth st ++ calls names depth rest

end

/-- A node stands for a call at a depth: it records where the call is, the components that it binds
and those that it leaves out. -/
def StandsFor (names : Combinators) (call : Nat × Stmt) (n : Node) : Prop :=
  ∃ source position params exclusions inner found,
    Classified.of names call.2 = .iteration source position params exclusions inner found ∧
      n.key.depth.toNat = call.1 ∧ n.position = position ∧
        n.bindings = params.filter (fun p => p.type ≠ []) ∧ n.excluded = exclusions

section

variable {s : Style} {names : Combinators} {depth : Nat} {st : Stmt}

theorem stmt_kept (plain : (Classified.of s.names st).isIteration = false) :
    stmt s depth st = verbatim st.source := by
  cases st with
  | text | call => simp only [stmt]
  | callWith => simp [stmt, plain, Stmt.source]

theorem stmt_truncated
    (called : Classified.of s.names st = .iteration source position params exclusions within found)
    (deep : 6 ≤ depth) : stmt s depth st = verbatim Walker.truncatedComment := by
  obtain ⟨chain, given, rfl, rfl⟩ := Classified.of_eq_iteration called
  simp [stmt, called, Classified.isIteration, Nat.not_lt.mpr deep]

theorem stmt_loop
    (called : Classified.of s.names st = .iteration source position params exclusions within found)
    (shallow : depth < 6) : stmt s depth st = loop s depth params (body s (depth + 1) within) := by
  obtain ⟨chain, given, rfl, rfl⟩ := Classified.of_eq_iteration called
  simp [stmt, called, Classified.isIteration, shallow]

theorem callsIn_kept (plain : (Classified.of names st).isIteration = false) :
    callsIn names depth st = [] := by
  cases st with
  | text | call => simp only [callsIn]
  | callWith => simp [callsIn, plain]

theorem callsIn_truncated (deep : 6 ≤ depth) : callsIn names depth st = [] := by
  cases st with
  | text | call => simp only [callsIn]
  | callWith => simp [callsIn, Nat.not_lt.mpr deep]

theorem callsIn_loop
    (called : Classified.of names st = .iteration source position params exclusions within found)
    (shallow : depth < 6) :
    callsIn names depth st = (depth, st) :: calls names (depth + 1) within := by
  obtain ⟨chain, given, rfl, rfl⟩ := Classified.of_eq_iteration called
  simp [callsIn, called, Classified.isIteration, shallow]

end

/-! ### The text of a loop -/

section

variable {s : Style} {lo : LoopOptions}

/-- Loops address the fields of their system as a style says. -/
structure Addresses (s : Style) (lo : LoopOptions) : Prop where
  receiver_eq : lo.receiver = s.receiver
  receiver_ne : s.receiver ≠ []
  poolLead_eq : lo.poolLead = s.poolLead

theorem Addresses.field_eq (addresses : Addresses s lo) (name : Text) :
    Loop.field lo name = s.receiver ++ "." ++ name := by
  simp [Loop.field, addresses.receiver_eq, addresses.receiver_ne]

theorem Addresses.binding_eq (addresses : Addresses s lo) (index query : Text) (used : List Text)
    (p : Param) :
    Loop.binding lo index query used p =
      (bindingLines s index query used p).flatMap (· ++ [Text.newline]) := by
  have close : Text.ofString "]]\n" = Text.ofString "]]" ++ [Text.newline] := by decide
  have feed : Text.ofString "\n" = [Text.newline] := by decide
  by_cases named : p.name = [] ∨ p.name = Text.ofString "_"
  · have unbound : Loop.isBound p = false := by
      rcases named with none | blank
      · simp [Loop.isBound, none]
      · simp [Loop.isBound, blank]
    simp [Loop.binding, bindingLines, unbound, named]
  · have bound : Loop.isBound p = true := by
      obtain ⟨present, proper⟩ := not_or.mp named
      simp [Loop.isBound, present, proper]
    by_cases read : p.name ∈ used
    · simp [Loop.binding, bindingLines, bound, named, read, addresses.field_eq, Loop.poolName,
        addresses.poolLead_eq, close]
    · simp [Loop.binding, bindingLines, bound, named, read, addresses.field_eq, Loop.poolName,
        addresses.poolLead_eq, close, feed]

theorem header_eq (index query : Text) :
    Loop.header index query = "for " ++ index ++ " := 0; " ++ index ++ " < " ++ query ++ ".Count(); "
      ++ index ++ "++ \x7b" ++ [Text.newline] := by
  have close : Text.ofString "++ \x7b\n" = Text.ofString "++ \x7b" ++ [Text.newline] := by decide
  simp [Loop.header, close]

theorem Addresses.frame_eq (addresses : Addresses s lo) (depth : UInt64) (typed : List Param)
    (inner : Text) (used : List Text) :
    Loop.frame lo depth (Signature.name s.queryLead (typed.map Param.type)) typed inner used =
      Text.unlines (loopLines s depth.toNat typed inner used) := by
  have bindings (index query : Text) : typed.flatMap (Loop.binding lo index query used) =
      (typed.flatMap (bindingLines s index query used)).flatMap (· ++ [Text.newline]) := by
    rw [List.flatMap_assoc]
    exact List.flatMap_congr fun p _ => addresses.binding_eq index query used p
  rw [loopLines, Text.unlines_concat]
  by_cases none : inner = []
  · simp [Loop.frame, none, header_eq, bindings, addresses.field_eq, Loop.indexName]
  · simp [Loop.frame, none, header_eq, bindings, addresses.field_eq, Loop.indexName]

theorem Addresses.around_eq (addresses : Addresses s lo) (o : WalkOptions)
    (lead : o.queryLead = s.queryLead) (key : Key) (position : Position) (params : List Param)
    (exclusions : List Text) (segments : Template) (pieces : List Rendered) :
    Loop.around lo (Walker.nodeOf o key position params exclusions segments) pieces =
      loop s key.depth.toNat params pieces := by
  simp only [Loop.around, loop, Walker.nodeOf_key, Walker.nodeOf_signature, Walker.nodeOf_bindings,
    Walker.boundParams_eq, lead, addresses.frame_eq, Loop.freeNames, Rendered.mk.injEq, true_and]
  apply List.filter_congr
  intro name _
  rw [Bool.eq_iff_iff]
  simp

end

end Expansion

/-! ### Walking and rendering -/

theorem toNat_lt_of_shallow {depth : UInt64} (shallow : depth < maxDepth) : depth.toNat < 6 :=
  shallow

/-- One level deeper stays below the largest word. -/
theorem toNat_succ_of_shallow {depth : UInt64} (shallow : depth < maxDepth) :
    (depth + 1).toNat = depth.toNat + 1 := by
  have bound := toNat_lt_of_shallow shallow
  rw [UInt64.toNat_add]
  exact Nat.mod_eq_of_lt (by simp; omega)

namespace Growth

open Expansion
open Walker (nodeOf)

variable {o : WalkOptions} {receiver : Text} {depth : UInt64} {first : Nat} {stmts : List Stmt}
  {segments : Template} {nodes : List Node} {findings : List Diagnostic} {s : Style}
  {lo : LoopOptions} {a : Arena}

/-- What a body grew into renders to its expansion, from every arena that holds the nodes. -/
theorem rendering (growth : Growth o receiver depth first stmts segments nodes findings)
    (names : o.names = s.names) (lead : o.queryLead = s.queryLead) (addresses : Addresses s lo)
    {above : Option Key} (fits : ∀ p ∈ above, depth = p.depth + 1) (distinct : a.keys.Nodup)
    (apart : (nodes.map Node.key).Nodup) (holds : a.Holds nodes) :
    Loop.Rendering lo above a segments (body s depth.toNat stmts) (nodes.map Node.key)
      (a.without (nodes.map Node.key)) := by
  induction growth generalizing above a with
  | nil =>
    rw [List.map_nil, Arena.without_nil]
    exact .nil
  | kept plain _ ih =>
    rw [body, stmt_kept (names ▸ plain)]
    exact .text (ih fits distinct apart holds)
  | truncated called deep _ ih =>
    rw [body, stmt_truncated (names ▸ called) (UInt64.le_iff_toNat_le.mp deep)]
    exact .text (ih fits distinct apart holds)
  | @loop _ _ position params exclusions within _ depth first enclosed below _ _ _ nodes _ called
      shallow _ _ ihInside ihRest =>
    let n := nodeOf o ⟨depth, .ofNat first⟩ position params exclusions enclosed
    obtain ⟨taken, belowNodup, holdsBelow, nodesNodup, holdsNodes⟩ := holds.claim distinct apart
    have deeper : ∀ p ∈ some n.key, depth + 1 = p.depth + 1 := by simp [n]
    have inside := ihInside deeper (Arena.keys_without_nodup distinct) belowNodup holdsBelow
    rw [toNat_succ_of_shallow shallow, Arena.without_without] at inside
    have rest := ihRest fits (Arena.keys_without_nodup distinct) nodesNodup holdsNodes
    rw [Arena.without_without] at rest
    have child : ∀ p ∈ above, n.key.isChildOf p = true := by
      intro p owner
      simp [n, Key.isChildOf, fits p owner]
    have piece : Loop.around lo n (body s (depth.toNat + 1) within) =
        Expansion.loop s depth.toNat params (body s (depth.toNat + 1) within) :=
      addresses.around_eq o lead n.key position params exclusions enclosed _
    rw [body, stmt_loop (names ▸ called) (toNat_lt_of_shallow shallow), ← piece, List.map_cons,
      List.map_append]
    exact .loop child taken inside rest

/-- The nodes stand for the calls that are expanded, in pre-order. -/
theorem stands_for (growth : Growth o receiver depth first stmts segments nodes findings) :
    List.Forall₂ (StandsFor o.names) (calls o.names depth.toNat stmts) nodes := by
  induction growth with
  | nil => exact .nil
  | kept plain _ ih =>
    rw [calls, callsIn_kept plain, List.nil_append]
    exact ih
  | truncated _ deep _ ih =>
    rw [calls, callsIn_truncated (UInt64.le_iff_toNat_le.mp deep), List.nil_append]
    exact ih
  | loop called shallow _ _ ihInside ihRest =>
    rw [toNat_succ_of_shallow shallow] at ihInside
    rw [calls, callsIn_loop called (toNat_lt_of_shallow shallow), List.cons_append]
    refine .cons ⟨_, _, _, _, _, _, called, rfl, rfl, ?_, ?_⟩ (List.rel_append ihInside ihRest)
    · rw [Walker.nodeOf_bindings, Walker.boundParams_eq]
    · rw [Walker.nodeOf_excluded]

end Growth

namespace Method

variable {m : Method} {o : WalkOptions} {options : UnitOptions} {preamble : Template}
  {nodes : List Node} {findings : List Diagnostic}

theorem addresses_style {a : Analysis} (receiver : a.receiver = m.receiver) :
    Expansion.Addresses (.of m o options) (Assembly.loopOptions a options) := by
  refine ⟨?_, ?_, ?_⟩
  · simp [Assembly.loopOptions, Assembly.receiverOf, Expansion.Style.of, receiver,
      Assembly.defaultReceiver]
  · by_cases unnamed : m.receiver = [] ∨ m.receiver = Text.ofString "_"
    · simp only [Expansion.Style.of, unnamed, if_true]
      decide
    · simp only [Expansion.Style.of, unnamed, if_false]
      exact fun absent => unnamed (.inl absent)
  · simp [Assembly.loopOptions, UnitOptions.complete, Expansion.Style.of, Loop.defaultPoolLead]

/-- The preamble of an analysed method renders to the expansion of its body, and takes every node. -/
theorem rendering_of_growth
    (growth : Growth o.complete m.receiver 0 0 m.body preamble nodes findings)
    (distinct : (nodes.map Node.key).Nodup) (options : UnitOptions) :
    Loop.Rendering (Assembly.loopOptions (m.analysis preamble nodes findings) options) none
      (Arena.ofNodes nodes).clone preamble (Expansion.body (.of m o options) 0 m.body)
      (nodes.map Node.key) ((Arena.ofNodes nodes).without (nodes.map Node.key)) := by
  rw [Arena.clone_eq, Arena.nodes_ofNodes distinct]
  refine growth.rendering o.names_complete o.queryLead_complete (addresses_style rfl) ?_ distinct
    distinct (Arena.holds_ofNodes nodes)
  simp

theorem exists_analysis (named : o.names.each ≠ [])
    (sized : (Expansion.calls o.names 0 m.body).length ≤ UInt64.size) :
    ∃ a, analyse (some m) o = .ok a := by
  obtain ⟨preamble, nodes, findings, growth⟩ := Growth.exists_growth o.complete m.receiver 0 0 m.body
  have room : 0 + nodes.length ≤ UInt64.size := by
    have each := growth.stands_for.length_eq
    rw [WalkOptions.names_complete] at each
    rw [Nat.zero_add, ← each]
    exact sized
  exact ⟨_, analyse_of_growth named growth (growth.keys_nodup room)⟩

/-- An analysed method has a unit, with the expansion of the method as its body. -/
theorem unit_of_analyse {a : Analysis} (valid : m.system.isValid = true)
    (analysed : analyse (some m) o = .ok a) (options : UnitOptions) :
    ∃ parts warnings, Assembly.ofAnalysis a options = .ok (parts, warnings) ∧
      parts.body = Source.indentBy 1
        (Text.unlines ((Expansion.body (.of m o options) 0 m.body).map Rendered.text)) := by
  obtain ⟨preamble, nodes, findings, growth, distinct, rfl⟩ := growth_of_analyse analysed
  have rendering := rendering_of_growth growth distinct options
  obtain ⟨parts, assembled, text⟩ := Assembly.ofAnalysis_of_rendering valid rendering
  exact ⟨parts, _, assembled, text⟩

/-- Walking a method and rendering what the walk registered is expanding the method, byte for byte. The
nodes of a method are numbered by machine words, so there is an analysed form as long as there is a
word for every call; whenever there is one, the body of the unit is the expansion. -/
theorem body_eq_expansion (m : Method) (o : WalkOptions) (options : UnitOptions)
    (named : o.names.each ≠ []) (valid : m.system.isValid = true) :
    ((Expansion.calls o.names 0 m.body).length ≤ UInt64.size → ∃ a, analyse (some m) o = .ok a) ∧
      ∀ a, analyse (some m) o = .ok a → ∃ parts warnings,
        Assembly.ofAnalysis a options = .ok (parts, warnings) ∧
          parts.body = Source.indentBy 1
            (Text.unlines ((Expansion.body (.of m o options) 0 m.body).map Rendered.text)) :=
  ⟨exists_analysis named, fun _ analysed => unit_of_analyse valid analysed options⟩

/-- A method with a loop inside a loop. -/
def nested : Method :=
  { system := "Motion"
    receiver := "m"
    body := [
      .text "t := now()" {},
      .callWith "m.Each(f)" {} [⟨"Each", []⟩] (some [⟨"geo.Pos", "p"⟩, ⟨"Tag", "_"⟩]) true [
        .callWith "m.Without[Idle]().Each(g)" {} [⟨"Without", ["Idle"]⟩, ⟨"Each", []⟩]
          (some [⟨"Vel", "v"⟩]) true [.text "p.X += t" {}]]] }

/-- The inner loop reads what the outer one binds, and gives its own unread variable a blank use. -/
theorem body_eq_expansion_nested :
    ∃ a parts warnings, analyse (some nested) {} = .ok a ∧
      Assembly.ofAnalysis a {} = .ok (parts, warnings) ∧
        parts.body = Source.indentBy 1 (Text.unlines [
          "t := now()",
          "for index0 := 0; index0 < m.query_geo_Pos_Tag.Count(); index0++ \x7b",
          "\tp := &m.poolgeo_Pos.Items[m.query_geo_Pos_Tag.Entities[index0]]",
          "\tfor index1 := 0; index1 < m.query_Vel.Count(); index1++ \x7b",
          "\t\tv := &m.poolVel.Items[m.query_Vel.Entities[index1]]",
          "\t\t_ = v",
          "\t\tp.X += t",
          "\t\x7d",
          "\x7d"]) := by
  obtain ⟨analysable, rendered⟩ := body_eq_expansion nested {} {} (by decide) (by decide)
  obtain ⟨a, analysed⟩ := analysable (by decide)
  obtain ⟨parts, warnings, assembled, text⟩ := rendered a analysed
  exact ⟨a, parts, warnings, analysed, assembled, text.trans (congrArg _ (by decide +kernel))⟩

end Method

end SystemLoops
