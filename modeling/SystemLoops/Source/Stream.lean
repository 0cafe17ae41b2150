import SystemLoops.Source.LineMap
import SystemLoops.Source.Tree

namespace SystemLoops.Source

/-- A token of the grammar and the comments next to it. -/
structure Item where
  tok : Tok
  pos : Pos
  finish : Pos
  literal : Text
  /-- The comments that end on the line before. -/
  lead : Option CommentGroup := none
  /-- The comments on the line of the token before. -/
  trailing : Option CommentGroup := none
deriving Repr, Inhabited

/-- The tokens of a text and all its comments. -/
structure Stream where
  items : Array Item
  comments : List CommentGroup
deriving Repr, Inhabited

namespace Stream

/-- A comment with the lines on which it starts and ends. -/
private structure Placed where
  comment : Comment
  first : Nat
  last : Nat

private def placed (m : LineMap) (t : Token) : Placed :=
  let first := m.rawLine t.offset
  let breaks := if t.literal[1]? == some 0x2A then t.literal.count Text.newline else 0
  ⟨⟨t.offset + 1, t.literal⟩, first, first + breaks⟩

/-- The comments that still belong to a group whose last line is `last`: the next comment may start up
to `gap` lines below it. -/
private def takeGroup (gap last : Nat) : List Placed → List Placed × List Placed
  | [] => ([], [])
  | c :: rest =>
    if c.first ≤ last + gap then
      let (inside, outside) := takeGroup gap c.last rest
      (c :: inside, outside)
    else ([], c :: rest)

/-- The groups of comments, in at most `steps` steps. -/
private def groups : (steps : Nat) → List Placed → List (List Placed)
  | 0, _ => []
  | _, [] => []
  | steps + 1, c :: rest =>
    let (inside, outside) := takeGroup 1 c.last rest
    (c :: inside) :: groups steps outside

private def lastLine (g : List Placed) : Nat :=
  match g.getLast? with
  | some c => c.last
  | none => 0

private def plainGroup (g : List Placed) : CommentGroup :=
  g.map Placed.comment

/-- The groups among the comments between two tokens. The first part is the group that follows the
token before, the second the group right above the token after. -/
private def between (before : Nat) (after : Nat) (tok : Tok) (comments : List Placed) :
    Option CommentGroup × Option CommentGroup × List CommentGroup :=
  let (same, others) := match comments with
    | c :: rest =>
      if c.first == before then
        let (inside, outside) := takeGroup 0 c.last rest
        (c :: inside, outside)
      else ([], c :: rest)
    | [] => ([], [])
  let endsHere := match others with
    | c :: _ => c.first != lastLine same
    | [] => after != lastLine same || tok == .semicolon || tok == .eof
  let trailing := if !same.isEmpty && endsHere then some (plainGroup same) else none
  let later := groups others.length others
  let lead := match later.getLast? with
    | some g => if lastLine g + 1 == after then some (plainGroup g) else none
    | none => none
  let all := (if same.isEmpty then [] else [plainGroup same]) ++ later.map plainGroup
  (trailing, lead, all)

/-- Attach comments to the tokens after them. `before` is the line of the token before, and `waiting` are
the comments met since, the latest first. -/
private def attach (m : LineMap) : (before : Nat) → (waiting : List Placed) → List Token →
    List Item × List CommentGroup
  | _, _, [] => ([], [])
  | before, waiting, t :: rest =>
    if t.tok == .comment then attach m before (placed m t :: waiting) rest
    else
      let line := m.rawLine t.offset
      let (trailing, lead, found) := between before line t.tok waiting.reverse
      let item : Item :=
        { tok := t.tok, pos := t.offset + 1, finish := t.offset + t.width + 1
          literal := t.literal, lead, trailing }
      let (items, comments) := attach m line [] rest
      (item :: items, found ++ comments)

def ofTokens (m : LineMap) (scanned : List Token) : Stream :=
  let (items, comments) := attach m 0 [] scanned
  ⟨items.toArray, comments⟩

end Stream

end SystemLoops.Source
