import SystemLoops.Proofs.Declarations

/-!
Blank uses. Rendering merges the names that statements mention on the way up, and every loop takes out
the names that it binds. Main statement: a binding has no blank use exactly when its name is mentioned in
its scope, that is, by its own loop or by a loop further in, and no loop on the way there binds the name
anew.
-/

namespace SystemLoops

namespace Loop

/-! ### Scopes -/

def Says (mentions : Text → List Text) (body : Template) (name : Text) : Prop :=
  ∃ source, .text source ∈ body ∧ name ∈ mentions source

def Leads (find : Key → Option Node) (body : Template) (child : Node) : Prop :=
  ∃ key ∈ body.holes, find key = some child

/-- A name is mentioned in the scope of a node: holes lead, in no step or more, to a node whose
statements mention it, and no node on the way, the first one left out, binds it anew. -/
def Mentioned (find : Key → Option Node) (mentions : Text → List Text) (n : Node) (name : Text) : Prop :=
  ∃ below : List Node, List.IsChain (fun parent child => Leads find parent.body child) (n :: below) ∧
    (∀ m ∈ below, name ∉ m.bindings.map Param.name) ∧
    Says mentions ((n :: below).getLast (List.cons_ne_nil _ _)).body name

/-- A body leaves a name free: its statements mention it, or a loop in it leaves it free. -/
def Leaves (find : Key → Option Node) (mentions : Text → List Text) (body : Template) (name : Text) :
    Prop :=
  Says mentions body name ∨
    ∃ child, Leads find body child ∧ name ∉ child.bindings.map Param.name ∧
      Mentioned find mentions child name

section

variable {find : Key → Option Node} {mentions : Text → List Text} {n : Node} {key : Key}
  {source name : Text} {body : Template}

theorem mentioned_iff : Mentioned find mentions n name ↔ Leaves find mentions n.body name := by
  constructor
  · rintro ⟨below, way, free, said⟩
    cases below with
    | nil => exact .inl said
    | cons child rest =>
      rw [List.isChain_cons_cons] at way
      rw [List.forall_mem_cons] at free
      exact .inr ⟨child, way.1, free.1, rest, way.2, free.2, said⟩
  · rintro (said | ⟨child, leads, free, below, way, others, said⟩)
    · exact ⟨[], .singleton n, by simp, said⟩
    · exact ⟨child :: below, .cons_cons leads way, List.forall_mem_cons.mpr ⟨free, others⟩, said⟩

theorem not_leaves_nil : ¬ Leaves find mentions [] name := by
  simp [Leaves, Says, Leads]

theorem leaves_text : Leaves find mentions (.text source :: body) name ↔
    name ∈ mentions source ∨ Leaves find mentions body name := by
  simp [Leaves, Says, Leads, or_and_right, exists_or, or_assoc]

theorem leaves_hole (found : find key = some n) : Leaves find mentions (.hole key :: body) name ↔
    (name ∉ n.bindings.map Param.name ∧ Leaves find mentions n.body name) ∨
      Leaves find mentions body name := by
  rw [← mentioned_iff]
  simp only [Leaves, Says, Leads, Template.holes_hole, List.mem_cons, reduceCtorEq, false_or,
    or_and_right, exists_or, exists_eq_left, found, Option.some.injEq, exists_eq_left']
  exact or_left_comm

end

/-! ### The text of a loop -/

/-- A loop as it is laid out. It binds the parameters of its node that have a name, in order, and every
binding comes with whether a blank use follows. -/
structure Laid where
  node : Node
  bindings : List (Param × Bool)
  binds : bindings.map Prod.fst =
    node.bindings.filter fun p => p.name ≠ [] ∧ p.name ≠ Text.ofString "_"

namespace Laid

theorem exists_mem_iff {l : Laid} {p : Param} : (∃ blank, (p, blank) ∈ l.bindings) ↔
    p ∈ l.node.bindings ∧ p.name ≠ [] ∧ p.name ≠ Text.ofString "_" := by
  have listed : (∃ blank, (p, blank) ∈ l.bindings) ↔ p ∈ l.bindings.map Prod.fst := by simp
  rw [listed, l.binds]
  simp

/-- What holds of every binding of some loops holds of every parameter of their nodes that has a name. -/
theorem forall_bindings_iff {loops : List Laid} {P : Node → Param → Prop} :
    (∀ l ∈ loops, ∀ b ∈ l.bindings, P l.node b.1) ↔ ∀ n ∈ loops.map Laid.node, ∀ p ∈ n.bindings,
      p.name ≠ [] ∧ p.name ≠ Text.ofString "_" → P n p := by
  constructor
  · intro all n member p bound named
    obtain ⟨l, placed, rfl⟩ := List.mem_map.mp member
    obtain ⟨blank, binds⟩ := exists_mem_iff.mpr ⟨bound, named⟩
    exact all l placed _ binds
  · intro all l placed b binds
    obtain ⟨bound, named⟩ := exists_mem_iff.mp ⟨b.2, binds⟩
    exact all _ (List.mem_map_of_mem placed) _ bound named

/-- The line that binds a parameter to its item. -/
def assignment (o : LoopOptions) (n : Node) (p : Param) : Text :=
  "\t" ++ p.name ++ " := &" ++ field o (poolName o.poolLead p.type) ++ ".Items["
    ++ field o n.signature ++ ".Entities[" ++ indexName n.key.depth ++ "]]\n"

/-- The line that uses a parameter for nothing. -/
def blankUse (p : Param) : Text :=
  "\t_ = " ++ p.name ++ "\n"

/-- The text of a loop around the texts of its body. -/
def text (o : LoopOptions) (l : Laid) (enclosed : List Text) : Text :=
  let body := Text.unlines enclosed
  header (indexName l.node.key.depth) (field o l.node.signature)
    ++ l.bindings.flatMap (fun b =>
      assignment o l.node b.1 ++ if b.2 then blankUse b.1 else [])
    ++ (if body.isEmpty then [] else Source.indentBy 1 body ++ [Text.newline]) ++ "\x7d"

/-- The layout of a node whose body reads `used`. -/
def ofNode (n : Node) (used : List Text) : Laid where
  node := n
  bindings := (n.bindings.filter isBound).map fun p => (p, !used.contains p.name)
  binds := by
    rw [List.map_map]
    refine (List.map_id _).trans (List.filter_congr fun p _ => ?_)
    rw [Bool.eq_iff_iff]
    simp [isBound]

/-- The blank uses of a loop stand with the bindings whose names are not mentioned in scope. -/
def ByScope (find : Key → Option Node) (l : Laid) : Prop :=
  ∀ b ∈ l.bindings, b.2 = true ↔ ¬ Mentioned find Source.identifiers l.node b.1.name

theorem byScope_ofNode {find : Key → Option Node} {n : Node} {used : List Text}
    (exactly : ∀ name, name ∈ used ↔ Mentioned find Source.identifiers n name) :
    (ofNode n used).ByScope find := by
  intro b member
  obtain ⟨p, -, rfl⟩ := List.mem_map.mp member
  simp [ofNode, exactly]

theorem bindings_eq (o : LoopOptions) (n : Node) (used : List Text) (params : List Param) :
    params.flatMap (binding o (indexName n.key.depth) (field o n.signature) used) =
      ((params.filter isBound).map fun p => (p, !used.contains p.name)).flatMap
        fun b => assignment o n b.1 ++ if b.2 then blankUse b.1 else [] := by
  induction params with
  | nil => rfl
  | cons p rest ih =>
    rw [List.flatMap_cons, ih]
    cases bound : isBound p with
    | false => simp [binding, bound]
    | true =>
      cases read : used.contains p.name <;>
        simp only [binding, assignment, blankUse, bound, read, List.filter_cons_of_pos, List.map_cons,
          List.flatMap_cons, Bool.not_true, Bool.not_false, Bool.false_eq_true, if_true, if_false,
          List.append_nil, List.append_assoc]

theorem text_around (o : LoopOptions) (n : Node) (pieces : List Rendered) :
    (around o n pieces).text =
      (ofNode n (pieces.flatMap Rendered.free)).text o (pieces.map Rendered.text) := by
  simp only [around, frame, text, ofNode, bindings_eq]

end Laid

/-- The texts of a body spell its statements, and for every hole the loop of the node found there, laid
out around the texts of its own body. -/
inductive Spelled (o : LoopOptions) (find : Key → Option Node) :
    Template → List Text → List Laid → Prop where
  | nil : Spelled o find [] [] []
  | text (rest : Spelled o find segments texts loops) :
      Spelled o find (.text source :: segments) (source :: texts) loops
  | loop (found : find key = some l.node) (inside : Spelled o find l.node.body enclosed within)
      (rest : Spelled o find segments texts loops) :
      Spelled o find (.hole key :: segments) (l.text o enclosed :: texts) (l :: (within ++ loops))

/-! ### Renderings spell by scope -/

/-- A lookup that finds every node that is still in an arena. -/
def Finds (find : Key → Option Node) (a : Arena) : Prop :=
  ∀ key n, a.lookup? key = some n → find key = some n

theorem Finds.without {find : Key → Option Node} {a : Arena} (finds : Finds find a) (met : List Key) :
    Finds find (a.without met) :=
  fun key n there => finds key n (Arena.lookup_of_lookup_without there)

namespace Rendering

variable {o : LoopOptions} {find : Key → Option Node} {above : Option Key} {a b : Arena}
  {segments : Template} {pieces : List Rendered} {met : List Key} {name : Text}

/-- The names that the pieces of a body read from around them are those that the body leaves free. -/
theorem mem_free_iff (rendering : Rendering o above a segments pieces met b) (finds : Finds find a) :
    name ∈ pieces.flatMap Rendered.free ↔ Leaves find Source.identifiers segments name := by
  induction rendering with
  | nil => simp [not_leaves_nil]
  | text _ ih => rw [List.flatMap_cons, List.mem_append, ih finds, leaves_text]
  | loop _ taken inside _ ihInside ihRest =>
    obtain ⟨-, found, -⟩ := Arena.claim_cases taken
    rw [Arena.eq_without_of_claim taken] at ihInside
    rw [inside.left_eq, Arena.eq_without_of_claim taken, Arena.without_without] at ihRest
    rw [List.flatMap_cons, List.mem_append, ihRest (finds.without _), leaves_hole (finds _ _ found),
      ← ihInside (finds.without _)]
    simp [around, freeNames, and_comm]

/-- What is rendered is spelled, one loop for every key that is met, with blank uses by scope. -/
theorem spelled (rendering : Rendering o above a segments pieces met b) (finds : Finds find a) :
    ∃ loops, Spelled o find segments (pieces.map Rendered.text) loops ∧
      loops.map (fun l => l.node.key) = met ∧
      ∀ l ∈ loops, find l.node.key = some l.node ∧ l.ByScope find := by
  induction rendering with
  | nil => exact ⟨[], .nil, rfl, by simp⟩
  | text _ ih =>
    obtain ⟨loops, spelled, keys, each⟩ := ih finds
    exact ⟨loops, .text spelled, keys, each⟩
  | @loop _ _ enclosed _ _ _ _ _ _ _ key n _ taken inside _ ihInside ihRest =>
    obtain ⟨-, found, -⟩ := Arena.claim_cases taken
    obtain rfl := Arena.key_of_lookup found
    have here := finds _ _ found
    have later := finds.without [n.key]
    rw [Arena.eq_without_of_claim taken] at ihInside inside
    rw [inside.left_eq, Arena.without_without] at ihRest
    obtain ⟨within, spelledInside, keysInside, eachInside⟩ := ihInside later
    obtain ⟨loops, spelledRest, keysRest, eachRest⟩ := ihRest (finds.without _)
    have decided := Laid.byScope_ofNode fun name => (inside.mem_free_iff later).trans mentioned_iff.symm
    refine ⟨Laid.ofNode n (enclosed.flatMap Rendered.free) :: (within ++ loops), ?_, ?_, ?_⟩
    · rw [List.map_cons, Laid.text_around]
      exact .loop here spelledInside spelledRest
    · simp [Laid.ofNode, keysInside, keysRest]
    · exact List.forall_mem_cons.mpr ⟨⟨here, decided⟩, List.forall_mem_append.mpr ⟨eachInside, eachRest⟩⟩

end Rendering

/-- A loop that renders is spelled from the nodes of the arena: it is laid out with every loop inside it,
one for each of the keys that are taken out. A binding in it is followed by a blank use exactly when its
name is not mentioned in scope. -/
theorem blank_use_iff {o : LoopOptions} {a left : Arena} {key : Key} {text : Text}
    (rendered : render o a key = (.ok text, left)) :
    ∃ loops, Spelled o a.lookup? [.hole key] [text] loops ∧
      left.claimed = (loops.map fun l => l.node.key).reverse ++ a.claimed ∧
      ∀ l ∈ loops, a.lookup? l.node.key = some l.node ∧
        ∀ b ∈ l.bindings, b.2 = true ↔ ¬ Mentioned a.lookup? Source.identifiers l.node b.1.name := by
  obtain ⟨piece, met, rendering, rfl⟩ := Rendering.render_eq_ok.mp rendered
  obtain ⟨loops, spelled, rfl, each⟩ := rendering.spelled fun _ _ found => found
  exact ⟨loops, spelled, by rw [rendering.left_eq]; rfl, each⟩

/-- A loop that binds two names around a loop that binds one of them anew and mentions both. -/
def shadowed : List Node :=
  [{ key := ⟨0, 0⟩, params := some [⟨"Pos", "p"⟩, ⟨"Tag", "_"⟩, ⟨"Vel", "v"⟩]
     body := [.text "step()", .hole ⟨1, 1⟩], signature := "query_Pos_Tag_Vel" },
    { key := ⟨1, 1⟩, params := some [⟨"Pos", "p"⟩], body := [.text "use(p, v)"]
      signature := "query_Pos" }]

theorem mentioned_shadowed (name : Text) :
    Mentioned (Arena.ofNodes shadowed).lookup? Source.identifiers shadowed[0] name ↔
      name = "step" ∨ name ≠ "p" ∧ (name = "use" ∨ name = "p" ∨ name = "v") := by
  have outer : Source.identifiers "step()" = [Text.ofString "step"] := by decide +kernel
  have inner : Source.identifiers "use(p, v)" =
      [Text.ofString "use", Text.ofString "p", Text.ofString "v"] := by decide +kernel
  have led : (Arena.ofNodes shadowed).lookup? ⟨1, 1⟩ = some shadowed[1] := rfl
  rw [mentioned_iff]
  change Leaves _ _ [.text _, .hole _] name ↔ _
  rw [leaves_text, leaves_hole led]
  change _ ∨ _ ∧ Leaves _ _ [.text _] name ∨ _ ↔ _
  simp [leaves_text, not_leaves_nil, outer, inner, shadowed, Node.bindings]

/-- The outer loop does not read the name that is bound anew, and reads the other one. -/
theorem blank_use_iff_shadowed :
    ∃ text left, render {} (.ofNodes shadowed) ⟨0, 0⟩ = (.ok text, left) ∧
      ∃ loops, Spelled {} (Arena.ofNodes shadowed).lookup? [.hole ⟨0, 0⟩] [text] loops ∧
        ∃ l ∈ loops, l.node.key = ⟨0, 0⟩ ∧ (⟨"Pos", "p"⟩, true) ∈ l.bindings ∧
          (⟨"Vel", "v"⟩, false) ∈ l.bindings := by
  obtain ⟨text, left, rendered⟩ : ∃ text left, render {} (.ofNodes shadowed) ⟨0, 0⟩ = (.ok text, left) :=
    ⟨_, _, Rendering.render_eq_ok.mpr ⟨_, _, .loop (by simp) rfl
      (.text (.loop (by decide) rfl (.text .nil) .nil)) .nil, rfl⟩⟩
  obtain ⟨loops, spelled, -, decided⟩ := blank_use_iff rendered
  refine ⟨text, left, rendered, loops, spelled, ?_⟩
  cases spelled with
  | @loop _ _ _ _ _ _ l found _ _ =>
    have outer : l.node = shadowed[0] := (Option.some.inj found).symm
    have scope := (decided l List.mem_cons_self).2
    simp only [outer, mentioned_shadowed, Prod.forall] at scope
    have bound (p : Param) := (Laid.exists_mem_iff (l := l) (p := p)).mpr
    rw [outer] at bound
    refine ⟨l, List.mem_cons_self, outer ▸ rfl, ?_, ?_⟩
    · obtain ⟨blank, there⟩ := bound ⟨"Pos", "p"⟩ (by decide)
      have unread : blank = true := (scope _ _ there).mpr (by decide)
      exact unread ▸ there
    · obtain ⟨blank, there⟩ := bound ⟨"Vel", "v"⟩ (by decide)
      have read : ¬ blank = true := fun unread => (scope _ _ there).mp unread (by decide)
      exact Bool.eq_false_iff.mpr read ▸ there

end Loop

namespace Method

open Loop (Laid Spelled)

variable {m : Method} {o : WalkOptions} {options : UnitOptions} {a : Analysis} {parts : Assembly}
  {warnings : List Diagnostic}

/-- The body of the unit of an analysed method is spelled from the nodes of the method, one loop for
every node, with blank uses by scope. -/
theorem spelled_of_analyse (analysed : analyse (some m) o = .ok a)
    (assembled : Assembly.ofAnalysis a options = .ok (parts, warnings)) :
    ∃ texts loops, parts.body = Source.indentBy 1 (Text.unlines texts) ∧
      Spelled (Assembly.loopOptions a options) (a.arena.getD .empty).lookup? a.preamble texts loops ∧
      loops.map Laid.node = a.nodes ∧
      ∀ l ∈ loops, l.ByScope (a.arena.getD .empty).lookup? := by
  obtain ⟨-, -, texts, left, rendered, body⟩ := Assembly.fields_of_ofAnalysis assembled
  obtain ⟨preamble, nodes, findings, growth, distinct, rfl⟩ := growth_of_analyse analysed
  have rendering := rendering_of_growth growth distinct options
  have same := rendered.symm.trans rendering.preamble_eq
  simp only [Prod.mk.injEq, Except.ok.injEq] at same
  rw [Arena.clone_eq, Arena.nodes_ofNodes distinct] at rendering
  obtain ⟨loops, spelled, keys, each⟩ := rendering.spelled fun _ _ found => found
  refine ⟨_, loops, same.1 ▸ body, spelled, ?_, fun l member => (each l member).2⟩
  rw [nodes_analysis distinct]
  calc loops.map Laid.node
      = (loops.map fun l => l.node.key).filterMap (Arena.ofNodes nodes).lookup? := by
        rw [List.filterMap_map, ← List.filterMap_eq_map]
        exact List.filterMap_congr fun l member => (each l member).1.symm
    _ = nodes := by
        rw [keys]
        exact Arena.filterMap_lookup_keys (a := .ofNodes nodes) distinct fun _ member => member

end Method

end SystemLoops
