import SystemLoops.Source.Stream

namespace SystemLoops.Source

/-- A place in a stream. A negative level stands for the header of a control statement, where a brace
opens a block and not a composite value. -/
structure Cursor where
  items : Array Item
  index : Nat := 0
  level : Int := 0

/-- Read a stretch of the stream, or refuse. -/
abbrev Parse := StateT Cursor Option

namespace Parse

def refuse : Parse α := fun _ => none

/-- The next token; behind the last one there is only the end. -/
def peek : Parse Item := fun c =>
  some (c.items.getD c.index { tok := .eof, pos := 0, finish := 0, literal := [] }, c)

/-- The kind of the next token. -/
def tok : Parse Tok := do return (← peek).tok

/-- The place of the next token. -/
def pos : Parse Pos := do return (← peek).pos

/-- Step over the next token. -/
def next : Parse Unit := modify fun c => { c with index := c.index + 1 }

/-- Whether the next token is of a kind. -/
def at? (t : Tok) : Parse Bool := do return (← tok) == t

/-- Step over a token of a kind and tell where it stands. -/
def expect (t : Tok) : Parse Pos := do
  let item ← peek
  if item.tok == t then
    next
    return item.pos
  else refuse

/-- Whether a line ended here, rather than a semicolon. -/
def isLineEnd (item : Item) : Bool :=
  item.literal == [Text.newline]

/-- Step over the end of a statement and tell the comment on its line. The end may be left out before a
closing mark. -/
def endOfLine : Parse (Option CommentGroup) := do
  let item ← peek
  match item.tok with
  | .rparen | .rbrace => return none
  | .semicolon =>
    next
    if isLineEnd item then return item.trailing
    else return (← peek).trailing
  | _ => refuse

/-- Whether another entry of a list follows; a list ends at `closing`. -/
def comma? (closing : Tok) : Parse Bool := do
  match ← tok with
  | .comma =>
    next
    return true
  | t => if t == closing then return false else refuse

/-- Repeat a step until it gives a result, at most `steps` times. -/
def iterateWithin (step : σ → Parse (σ ⊕ α)) : (steps : Nat) → σ → Parse α
  | 0, _ => refuse
  | steps + 1, s => do
    match ← step s with
    | .inl s => iterateWithin step steps s
    | .inr a => return a

/-- Repeat a step that takes tokens until it gives a result. -/
def iterate (step : σ → Parse (σ ⊕ α)) (s : σ) : Parse α := do
  let c ← get
  iterateWithin step (c.items.size + 2 - c.index) s

/-- Read items while the next token allows it. -/
def many (goesOn : Tok → Bool) (read : Parse α) : Parse (List α) :=
  iterate (fun found => do
    if goesOn (← tok) then return .inl (found ++ [← read]) else return .inr found) []

/-- Read items with commas between them. -/
def sepBy (read : Parse α) : Parse (List α) := do
  let first ← read
  iterate (fun found => do
    if ← at? .comma then
      next
      return .inl (found ++ [← read])
    else return .inr found) [first]

/-- Read items up to a closing mark; a comma may follow the last one. -/
def listUntil (closing : Tok) (read : Parse α) : Parse (List α) :=
  iterate (fun found => do
    let t ← tok
    if t == closing || t == .eof then return .inr found
    let found := found ++ [← read]
    if ← comma? closing then return .inl found else return .inr found) []

/-- Read with the level raised, as between parentheses. -/
def nested (read : Parse α) : Parse α := do
  modify fun c => { c with level := c.level + 1 }
  let a ← read
  modify fun c => { c with level := c.level - 1 }
  return a

def header (read : Parse α) : Parse α := do
  let before := (← get).level
  modify fun c => { c with level := -1 }
  let a ← read
  modify fun c => { c with level := before }
  return a

/-- Read a name. -/
def ident : Parse Ident := do
  let item ← peek
  if item.tok == .ident then
    next
    return ⟨item.pos, item.literal⟩
  else refuse

/-- Take the next token as a literal. -/
def literal : Parse Literal := do
  let item ← peek
  next
  return ⟨item.pos, item.finish, item.tok, item.literal⟩

end Parse

/-- The parts of the grammar that contain themselves. Each part works for texts up to some nesting and is
built from the parts for one level less. -/
structure Grammar where
  expr : Parse Expr
  unary : Parse Expr
  binary : (least : Nat) → Parse Expr
  type? : Parse (Option Expr)
  statement : Parse Statement

namespace Grammar

def nothing : Grammar where
  expr := Parse.refuse
  unary := Parse.refuse
  binary := fun _ => Parse.refuse
  type? := Parse.refuse
  statement := Parse.refuse

def type (g : Grammar) : Parse Expr := do
  match ← g.type? with
  | some t => return t
  | none => Parse.refuse

end Grammar

end SystemLoops.Source
