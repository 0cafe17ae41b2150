import SystemLoops.Proofs.FirstDeclared
import SystemLoops.Proofs.Indentation
import SystemLoops.Proofs.Rendering

/-!
Faults of assembly. The parts of a unit are put together once more with a check wherever a list is read or
written by position, a text is cut or repeated, or a contract is to hold, on any texts and any arena. Main
statement: the checks change nothing, and a single one of them can fail, on the name of a system that starts
with an ill-formed byte and is shorter than the character that stands for the byte.
-/

namespace SystemLoops

namespace Identifier

/-- A text starts with a byte that begins no well-formed character. -/
def StartsIllFormed (t : Text) : Prop :=
  t.runes.head? = some Rune.illFormed

/-- Lowering the first character of a name is at fault exactly if that character is an ill-formed byte and the
name is shorter than the character it reads as. -/
theorem lowerFirst_eq_error_iff {name : Text} {f : Fault} :
    lowerFirst name = .error f ↔
      StartsIllFormed name ∧ name.length < 3 ∧ f = .cutBeyond 3 name.length := by
  cases name with
  | nil =>
    constructor
    · intro lowered
      cases lowered
    · rintro ⟨starts, -⟩
      cases starts
  | cons b rest =>
    have runes : Text.runes (b :: rest) = Rune.decode b rest ::
        Text.runesFrom ((Rune.decode b rest).width - 1) rest := rfl
    rw [lowerFirst, StartsIllFormed, runes, List.head?_cons, Option.some.injEq]
    dsimp only
    by_cases ill : Rune.decode b rest = Rune.illFormed
    · have width : (Text.ofChar Rune.illFormed.char).length = 3 := by decide
      rw [ill, width]
      by_cases room : 3 ≤ (b :: rest).length
      · rw [if_pos room]
        simp only [reduceCtorEq, false_iff]
        rintro ⟨-, short, -⟩
        exact absurd room (Nat.not_le.mpr short)
      · rw [if_neg room, Except.error.injEq]
        exact ⟨fun same => ⟨rfl, Nat.not_le.mp room, same.symm⟩, fun h => h.2.2.symm⟩
    · have fits : (Text.ofChar (Rune.decode b rest).char).length ≤ (b :: rest).length :=
        Text.length_ofChar_decode_le (bne_iff_ne.mpr ill)
      rw [if_pos fits]
      simp only [reduceCtorEq, ill, false_and]

/-- Whether the upper-case letter at a position starts a word: a lower-case letter stands before it, or
something else before it and a lower-case letter behind it. -/
def breaksAt (chars : List Char) (i : Nat) : Except Fault Bool :=
  if i = 0 then .ok false
  else match Checked.read chars ((i : Int) - 1) with
    | .error f => .error f
    | .ok previous =>
      if Unicode.isLower previous then .ok true
      else if i + 1 < chars.length then (Checked.read chars ((i : Int) + 1)).map Unicode.isLower
      else .ok false

/-- The characters of a name from position `i` on in snake case, with the neighbours read by position. -/
def checkedSnake (chars : List Char) : (i : Nat) → List Char → Except Fault (List Char)
  | _, [] => .ok []
  | i, c :: rest =>
    if Unicode.isUpper c then
      match breaksAt chars i with
      | .error f => .error f
      | .ok breaks => (checkedSnake chars (i + 1) rest).map fun later =>
        (if breaks then ['_'] else []) ++ Unicode.toLower c :: later
    else (checkedSnake chars (i + 1) rest).map (c :: ·)

/-- The name of the file for a system, with its characters read by position. -/
def checkedFileName (system suffix : Text) : Except Fault Text :=
  (checkedSnake system.chars 0 system.chars).map fun word => Text.ofChars word ++ suffix

theorem breaksAt_append (before : List Char) (c : Char) (rest : List Char) :
    breaksAt (before ++ c :: rest) before.length = .ok (match before.getLast? with
      | none => false
      | some p => Unicode.isLower p || rest.head?.any Unicode.isLower) := by
  rcases before.eq_nil_or_concat with rfl | ⟨earlier, p, rfl⟩
  · rfl
  · rw [List.concat_eq_append, List.append_assoc, List.singleton_append, List.length_append,
      List.length_singleton, List.getLast?_concat, breaksAt, if_neg (Nat.succ_ne_zero _)]
    have previous : (earlier ++ p :: c :: rest)[earlier.length]? = some p := by
      rw [List.getElem?_append_right (Nat.le_refl _), Nat.sub_self, List.getElem?_cons_zero]
    have place : ((earlier.length + 1 : Nat) : Int) - 1 = (earlier.length : Nat) := by omega
    rw [place, Checked.read_of_known previous]
    dsimp only
    cases Unicode.isLower p with
    | true => rfl
    | false =>
      cases rest with
      | nil =>
        have last : ¬ earlier.length + 1 + 1 < (earlier ++ [p, c]).length := by simp
        rw [if_neg Bool.false_ne_true, if_neg last]
        rfl
      | cons next later =>
        have following : (earlier ++ p :: c :: next :: later)[earlier.length + 2]? = some next := by
          rw [List.getElem?_append_right (Nat.le_add_right _ _), Nat.add_sub_cancel_left]
          rfl
        have room := (List.getElem?_eq_some_iff.mp following).1
        have place : ((earlier.length + 1 : Nat) : Int) + 1 = (earlier.length + 2 : Nat) := by omega
        rw [if_neg Bool.false_ne_true, if_pos room, place, Checked.read_of_known following]
        rfl

theorem checkedSnake_append (before rest : List Char) :
    checkedSnake (before ++ rest) before.length rest = .ok (snakeFrom before.getLast? rest) := by
  induction rest generalizing before with
  | nil => rfl
  | cons c rest ih =>
    have later := ih (before ++ [c])
    rw [List.append_assoc, List.singleton_append, List.length_append, List.length_singleton,
      List.getLast?_concat] at later
    rw [checkedSnake, snakeFrom.eq_def, breaksAt_append]
    dsimp only
    rw [later]
    split <;> rfl

/-- The neighbours of a letter are only read where they are. -/
theorem checkedFileName_eq (system suffix : Text) :
    checkedFileName system suffix = .ok (fileName system suffix) := by
  have word := checkedSnake_append [] system.chars
  rw [List.nil_append, List.length_nil, List.getLast?_nil] at word
  rw [checkedFileName, word, fileName]
  rfl

end Identifier

namespace Source

def checkedIndent (code : Text) (level : Int) : Except Fault Text :=
  if code.isEmpty then .ok code
  else if level < 0 then .error .negativeRepeat
  else (Checked.rewrite (fun i line =>
    if (rawStringLines code).contains (i : Int) then line
    else if line.isBlank then line else tabs level.toNat ++ line) code.lines).map Text.unlines

theorem checkedIndent_eq (code : Text) (level : Int) : checkedIndent code level = indent code level := by
  rw [checkedIndent, indent, indentBy, mapLines_eq_mapIdx, Checked.rewrite_eq]
  simp only [Nat.zero_add]
  rfl

theorem checkedIndent_natural (code : Text) (level : Nat) :
    checkedIndent code level = .ok (indentBy level code) :=
  (checkedIndent_eq code level).trans (indent_natural code level)

end Source

/-! ### Registries -/

/-- Nodes by the keys under which they were registered, which need not be the keys they have by now. Of two
entries under one key the first counts. -/
structure Registry where
  slots : List (Key × Node) := []
  claimed : List Key := []
  order : List Key := []

namespace Registry

/-- The node under a key, if it is still there. -/
def lookup? (r : Registry) (key : Key) : Option Node :=
  r.slots.lookup key

/-- The nodes still there, in the order of registration. -/
def nodes (r : Registry) : List Node :=
  r.order.filterMap r.lookup?

def claim (r : Registry) (key : Key) : Except Failure (Node × Registry) :=
  if r.claimed.contains key then .error (.refused .alreadyClaimed key)
  else match r.lookup? key with
    | none => .error (.refused .unknownNode key)
    | some n =>
      .ok (n, { r with slots := r.slots.filter (fun slot => slot.1 != key), claimed := key :: r.claimed })

/-- Put a node under its key, in place of what was there. -/
def put (r : Registry) (n : Node) : Registry :=
  { r with slots := (n.key, n) :: r.slots, order := r.order ++ [n.key] }

/-- A new registry with the nodes still there under the keys they have, and no claims. -/
def clone (r : Registry) : Registry :=
  r.nodes.foldl put {}

/-- The registry with the nodes of an arena under their keys. -/
def ofArena (a : Arena) : Registry :=
  { slots := a.slots.map fun n => (n.key, n), claimed := a.claimed, order := a.order }

/-- Every node is under the key it has. -/
def Keyed (r : Registry) : Prop :=
  ∀ slot ∈ r.slots, slot.2.key = slot.1

theorem keyed_foldl_put {r : Registry} (keyed : r.Keyed) (nodes : List Node) : (nodes.foldl put r).Keyed := by
  induction nodes generalizing r with
  | nil => exact keyed
  | cons n rest ih =>
    apply ih
    intro slot member
    rcases List.mem_cons.mp member with rfl | earlier
    · rfl
    · exact keyed slot earlier

/-- However the keys of the nodes were changed, a clone has every node under the key it has. -/
theorem keyed_clone (r : Registry) : r.clone.Keyed :=
  keyed_foldl_put (fun _ member => absurd member List.not_mem_nil) r.nodes

theorem exists_arena {r : Registry} (keyed : r.Keyed) : ∃ a, r = ofArena a := by
  refine ⟨{ slots := r.slots.map Prod.snd, claimed := r.claimed, order := r.order }, ?_⟩
  have same : r.slots = (r.slots.map Prod.snd).map fun n => (n.key, n) := by
    rw [List.map_map]
    refine (List.map_id _).symm.trans (List.map_congr_left fun slot member => ?_)
    exact Prod.ext (keyed slot member).symm rfl
  rw [ofArena, ← same]

theorem lookup_ofArena (a : Arena) (key : Key) : (ofArena a).lookup? key = a.lookup? key := by
  rw [lookup?, ofArena, Arena.lookup?]
  induction a.slots with
  | nil => rfl
  | cons n rest ih =>
    rw [List.map_cons, List.lookup_cons, List.find?_cons, ih, Bool.beq_comm]

theorem claim_ofArena (a : Arena) (key : Key) :
    (ofArena a).claim key = (a.claim key).map fun taken => (taken.1, ofArena taken.2) := by
  rw [claim, lookup_ofArena, Arena.claim]
  have claimed : (ofArena a).claimed = a.claimed := rfl
  rw [claimed]
  split
  · rfl
  · cases a.lookup? key with
    | none => rfl
    | some n =>
      simp only [ofArena, Except.map, List.filter_map]
      rfl

end Registry

/-! ### Rendering -/

/-- Words around a failure; a fault is not worded anew. -/
def Trouble.within (before : Text) : Trouble → Trouble
  | .failure f => .failure (.around before f [])
  | .fault f => .fault f

namespace Loop

/-- The loop of a node around the pieces of its body, with the body indented in place. -/
def checkedAround (o : LoopOptions) (n : Node) (pieces : List Rendered) : Except Fault Rendered :=
  let index := indexName n.key.depth
  let query := field o n.signature
  let used := pieces.flatMap Rendered.free
  let body := Text.unlines (pieces.map Rendered.text)
  let inner := if body.isEmpty then .ok []
    else (Source.checkedIndent body 1).map (· ++ [Text.newline])
  inner.map fun inner =>
    { text := header index query ++ n.bindings.flatMap (binding o index query used) ++ inner ++ "\x7d"
      free := freeNames n.bindings used }

theorem checkedAround_eq (o : LoopOptions) (n : Node) (pieces : List Rendered) :
    checkedAround o n pieces = .ok (around o n pieces) := by
  have inner : Source.checkedIndent (Text.unlines (pieces.map Rendered.text)) 1 = _ :=
    Source.checkedIndent_natural _ 1
  rw [checkedAround, inner, around, frame]
  split <;> rfl

/-- Render the pieces of the body of the node `parent`, with `enter` for the loops inside it. -/
def checkedSegments (enter : Registry → Key → Except Trouble Rendered × Registry) (parent : Key) :
    Registry → Template → Except Trouble (List Rendered) × Registry
  | r, [] => (.ok [], r)
  | r, .text source :: rest =>
    (checkedSegments enter parent r rest).map
      (Except.map (⟨source, Source.identifiers source⟩ :: ·)) id
  | r, .hole key :: rest =>
    if key.isChildOf parent then
      match enter r key with
      | (.error t, left) => (.error (t.within ("node " ++ parent.render ++ ": ")), left)
      | (.ok piece, left) => (checkedSegments enter parent left rest).map (Except.map (piece :: ·)) id
    else (.error (.failure (.plain ("node " ++ parent.render ++ ": child " ++ key.render
      ++ " is not one level deeper"))), r)

/-- Claim the node under a key and render its loop, at most `levels` loops deep. The node has to have the key
under which it is claimed. -/
def checkedNode (o : LoopOptions) :
    (levels : Nat) → Registry → Key → Except Trouble Rendered × Registry
  | 0, r, _ => (.error (.fault (.refused "stack overflow")), r)
  | levels + 1, r, key =>
    match r.claim key with
    | .error f => (.error (.failure f), r)
    | .ok (n, left) =>
      match Contract.check .invariant (n.key == key)
          ("claimed node " ++ n.key.render ++ " under key " ++ key.render) with
      | .error f => (.error (.fault f), left)
      | .ok () =>
        match checkedSegments (checkedNode o levels) n.key left n.body with
        | (.error t, rest) => (.error t, rest)
        | (.ok pieces, rest) => ((checkedAround o n pieces).mapError Trouble.fault, rest)

/-- Render the pieces of a preamble, no loop deeper than there are nodes. -/
def checkedPreamble (o : LoopOptions) : Registry → Template → Except Trouble (List Text) × Registry
  | r, [] => (.ok [], r)
  | r, .text source :: rest => (checkedPreamble o r rest).map (Except.map (source :: ·)) id
  | r, .hole key :: rest =>
    match checkedNode o (r.slots.length + 1) r key with
    | (.error t, left) => (.error t, left)
    | (.ok loop, left) => (checkedPreamble o left rest).map (Except.map (loop.text :: ·)) id

/-- What rendering did to an arena, as it does it to the registry of the arena. -/
def raised (result : Except Failure α × Arena) : Except Trouble α × Registry :=
  result.map (Except.mapError Trouble.failure) Registry.ofArena

variable {o : LoopOptions} {levels : Nat} {a : Arena}

theorem raised_map (f : α → β) (result : Except Failure α × Arena) :
    raised (result.map (Except.map f) id) = (raised result).map (Except.map f) id := by
  obtain ⟨outcome, left⟩ := result
  cases outcome <;> rfl

theorem raised_ne_fault (result : Except Failure α × Arena) (f : Fault) :
    (raised result).1 ≠ .error (.fault f) := by
  obtain ⟨outcome, left⟩ := result
  cases outcome <;> simp [raised, Except.mapError]

/-- A body renders as it does without checks when the loops inside it do. -/
theorem checkedSegments_eq {enter : Registry → Key → Except Trouble Rendered × Registry}
    (entered : ∀ b key, b.size ≤ a.size → enter (.ofArena b) key = raised (renderNode o b key).result)
    (parent : Key) (segments : Template) :
    checkedSegments enter parent (.ofArena a) segments =
      raised (renderSegments o parent a segments).result := by
  induction segments generalizing a with
  | nil =>
    rw [renderSegments_nil]
    rfl
  | cons segment rest ih =>
    cases segment with
    | text source => rw [checkedSegments, ih entered, renderSegments_text, raised_map]
    | hole key =>
      rw [checkedSegments, renderSegments_hole, entered a key (Nat.le_refl _)]
      split
      · have fewer : (renderNode o a key).result.2.size ≤ a.size := (renderNode o a key).no_larger
        generalize (renderNode o a key).result = result at fewer
        obtain ⟨outcome, left⟩ := result
        cases outcome with
        | error f => rfl
        | ok piece =>
          have later := ih fun b key smaller => entered b key (Nat.le_trans smaller fewer)
          simp only [raised_map, ← later]
          rfl
      · rfl

/-- Rendering never goes deeper than there are nodes, and no node is claimed under another key than its own. -/
theorem checkedNode_eq (o : LoopOptions) (enough : a.size < levels) (key : Key) :
    checkedNode o levels (.ofArena a) key = raised (renderNode o a key).result := by
  induction levels generalizing a key with
  | zero => exact absurd enough (Nat.not_lt_zero _)
  | succ levels ih =>
    rw [checkedNode, Registry.claim_ofArena]
    cases taken : a.claim key with
    | error f =>
      rw [renderNode_refused taken]
      rfl
    | ok claimed =>
      obtain ⟨n, left⟩ := claimed
      have named : n.key = key := Arena.key_of_lookup (Arena.claim_cases taken).2.1
      have fewer := Arena.size_claim_lt taken
      have check : Contract.check .invariant (n.key == key)
          ("claimed node " ++ n.key.render ++ " under key " ++ key.render) = .ok () :=
        if_pos (beq_iff_eq.mpr named)
      have entered (b : Arena) (child : Key) (smaller : b.size ≤ left.size) :
          checkedNode o levels (.ofArena b) child = raised (renderNode o b child).result :=
        ih (by omega) child
      have body := checkedSegments_eq entered n.key n.body
      rw [renderNode_taken taken]
      dsimp only [Except.map]
      rw [check, body]
      generalize (renderSegments o n.key left n.body).result = result
      obtain ⟨outcome, rest⟩ := result
      cases outcome with
      | error f => rfl
      | ok pieces =>
        simp only [raised, Prod.map, Except.mapError, checkedAround_eq]
        rfl

theorem checkedPreamble_eq (o : LoopOptions) (a : Arena) (segments : Template) :
    checkedPreamble o (.ofArena a) segments = raised (Assembly.renderPreamble o a segments) := by
  induction segments generalizing a with
  | nil => rfl
  | cons segment rest ih =>
    cases segment with
    | text source =>
      change (checkedPreamble o (.ofArena a) rest).map (Except.map (source :: ·)) id =
        raised ((Assembly.renderPreamble o a rest).map (Except.map (source :: ·)) id)
      rw [ih, raised_map]
    | hole key =>
      have enough : a.size < (Registry.ofArena a).slots.length + 1 := by
        rw [Registry.ofArena, List.length_map]
        exact Nat.lt_succ_self a.size
      rw [checkedPreamble, checkedNode_eq o enough, Assembly.renderPreamble, render_eq]
      generalize (renderNode o a key).result = result
      obtain ⟨outcome, left⟩ := result
      cases outcome with
      | error f => rfl
      | ok loop =>
        change (checkedPreamble o (.ofArena left) rest).map (Except.map (loop.text :: ·)) id =
          raised ((Assembly.renderPreamble o left rest).map (Except.map (loop.text :: ·)) id)
        rw [ih, raised_map]

/-- Whatever the keys of its nodes, a clone renders without a fault. -/
theorem checkedPreamble_clone (o : LoopOptions) (r : Registry) (segments : Template) (f : Fault) :
    (checkedPreamble o r.clone segments).1 ≠ .error (.fault f) := by
  obtain ⟨a, same⟩ := Registry.exists_arena r.keyed_clone
  rw [same, checkedPreamble_eq]
  exact raised_ne_fault _ f

end Loop

namespace Assembly

def preambleTrouble (system : Text) : Trouble → Trouble
  | .failure f => .failure (registryFailure system f)
  | .fault f => .fault f

/-- The parts of the unit of a method, put together with every check. -/
def checked (a : Analysis) (options : UnitOptions) : Except Trouble (Assembly × List Diagnostic) :=
  let o := options.complete
  let runtime := Path.base o.runtimeImport
  match Identifier.lowerFirst a.system with
  | .error f => .error (.fault f)
  | .ok lowered =>
    let registered := a.arena.or (some .empty)
    match Fault.requirePresent registered.isSome "arena" with
    | .error f => .error (.fault f)
    | .ok () =>
      let arena := registered.getD .empty
      match Declared.Indexed.ofNodes arena.nodes with
      | .error f => .error (.fault f)
      | .ok { declared, .. } =>
        match (Loop.checkedPreamble (loopOptions a options) (.ofArena arena.clone) a.preamble).1 with
        | .error t => .error (preambleTrouble a.system t)
        | .ok parts =>
          match Source.checkedIndent (Text.unlines parts) 1 with
          | .error f => .error (.fault f)
          | .ok body =>
            .ok ({
              source := if a.position.file.isEmpty then [] else Path.base a.position.file
              package := if a.package.isEmpty then defaultPackage else a.package
              imports := importLines a.imports o.runtimeImport
              system := a.system
              stateType := lowered ++ "ECS"
              receiver := receiverOf a
              runtime
              each := o.eachName
              pools := (a.storageTypes.getD []).map (storageOf runtime o.poolLead)
              queries := declared.queries.map fun q => ⟨q.name, queryInit runtime q⟩
              body }, declared.conflicts.map (conflictWarning arena))

theorem checked_eq (a : Analysis) (options : UnitOptions) : checked a options = ofAnalysis a options := by
  have arena : (a.arena.or (some Arena.empty)).getD .empty = a.arena.getD .empty := by cases a.arena <;> rfl
  have present : (a.arena.or (some Arena.empty)).isSome = true := by cases a.arena <;> rfl
  obtain ⟨index, declared⟩ := Declared.Indexed.exists_ofNodes (a.arena.getD .empty).nodes
  rw [checked, ofAnalysis]
  cases Identifier.lowerFirst a.system with
  | error f => rfl
  | ok lowered =>
    simp only [arena, present, declared, Fault.requirePresent, Contract.check, if_true,
      Loop.checkedPreamble_eq]
    generalize renderPreamble (loopOptions a options) (a.arena.getD .empty).clone a.preamble = rendered
    obtain ⟨outcome, left⟩ := rendered
    cases outcome with
    | error f => rfl
    | ok parts =>
      have body : Source.checkedIndent (Text.unlines parts) 1 = _ := Source.checkedIndent_natural _ 1
      simp only [Loop.raised, Prod.map, Except.mapError, body]
      rfl

/-- A unit is put together without a fault unless the name of its system is too short to be lowered. -/
theorem ofAnalysis_eq_fault_iff {a : Analysis} {options : UnitOptions} {f : Fault} :
    ofAnalysis a options = .error (.fault f) ↔ Identifier.lowerFirst a.system = .error f := by
  rw [ofAnalysis]
  cases Identifier.lowerFirst a.system with
  | error g => simp
  | ok lowered =>
    dsimp only
    split <;> simp

/-- On any texts, arena and options, no check fails while a unit is put together or its file is named, with one
exception: the name of the system starts with an ill-formed byte and is shorter than the character that stands
for that byte. The check of the keys never fails either, whatever keys the nodes were given since they were
registered. -/
theorem assembly_fault_iff (a : Analysis) (options : UnitOptions) :
    checked a options = ofAnalysis a options ∧
    (∀ suffix, Identifier.checkedFileName a.system suffix = .ok (Identifier.fileName a.system suffix)) ∧
    (∀ f, checked a options = .error (.fault f) ↔
      Identifier.StartsIllFormed a.system ∧ a.system.length < 3 ∧ f = .cutBeyond 3 a.system.length) ∧
    ∀ (r : Registry) (o : LoopOptions) (segments : Template) (f : Fault),
      (Loop.checkedPreamble o r.clone segments).1 ≠ .error (.fault f) := by
  refine ⟨checked_eq a options, Identifier.checkedFileName_eq a.system, fun f => ?_,
    fun r o segments f => Loop.checkedPreamble_clone o r segments f⟩
  rw [checked_eq, ofAnalysis_eq_fault_iff]
  exact Identifier.lowerFirst_eq_error_iff

/-- A system whose name is one ill-formed byte has no unit: its name is cut behind its end. -/
theorem assembly_fault_illFormed :
    checked { system := [0xFF] } {} = .error (.fault (.cutBeyond 3 1)) ∧
      ofAnalysis { system := [0xFF] } {} = .error (.fault (.cutBeyond 3 1)) := by
  obtain ⟨same, -, fault, -⟩ := assembly_fault_iff { system := [0xFF] } {}
  have aborted := (fault (.cutBeyond 3 1)).mpr ⟨by unfold Identifier.StartsIllFormed; decide, by decide, rfl⟩
  exact ⟨aborted, same ▸ aborted⟩

end Assembly

end SystemLoops
