import SystemLoops.Source.Parse.Type

namespace SystemLoops.Source.Grammar

open Parse

variable (g : Grammar)

/-- Whether a statement can follow before a token, as opposed to the end of a list of statements. -/
def goesOnWithStatement (t : Tok) : Bool :=
  t != .kwCase && t != .kwDefault && t != .rbrace && t != .eof

/-- Statements up to a closing brace or the next clause. -/
def statementList : Parse (List Statement) :=
  many goesOnWithStatement g.statement

def block : Parse Block := do
  let lbrace ← expect .lbrace
  let statements ← statementList g
  let rbrace ← expect .rbrace
  return .mk lbrace statements rbrace

/-- A function type, or the function value that it begins. -/
def functionTypeOrValue : Parse Expr := do
  let type ← funcType g
  if ← at? .lbrace then
    let body ← nested (block g)
    return .mk type.start body.finish (.function type body)
  else return .mk type.start type.finish (.funcType type)

def operand : Parse Expr := do
  let item ← peek
  match item.tok with
  | .ident =>
    next
    return .ofIdent ⟨item.pos, item.literal⟩
  | .int | .float | .imag | .char | .string => return .ofLiteral (← literal)
  | .lparen =>
    next
    let inner ← nested g.expr
    let rparen ← expect .rparen
    return .mk item.pos (rparen + 1) (.paren inner rparen)
  | .kwFunc => functionTypeOrValue g
  | _ =>
    match ← typeHere? g with
    | some x => return x
    | none => refuse

/-- What follows a period: a selected name or a type assertion. -/
def afterPeriod (x : Expr) : Parse Expr := do
  let item ← peek
  match item.tok with
  | .ident =>
    let sel ← ident
    return .mk x.start sel.finish (.selector x sel)
  | .lparen =>
    next
    let type ← if ← at? .kwType then next; pure none else some <$> g.type
    let rparen ← expect .rparen
    return .mk x.start (rparen + 1) (.typeAssert x item.pos type rparen)
  | _ => refuse

def sliceBound : Parse (Option Expr) := do
  let t ← tok
  if t == .colon || t == .rbrack || t == .eof then return none else some <$> g.expr

/-- The colons of a slice with the bounds behind them, two colons at most. -/
def sliceBounds : Parse (List (Option Expr)) := do
  if ← at? .colon then
    next
    let high ← sliceBound g
    if ← at? .colon then
      next
      return [high, ← sliceBound g]
    else return [high]
  else return []

/-- The brackets behind an operand: an index, a slice, or type arguments. A slice with three bounds needs
the last two. -/
def brackets (x : Expr) : Parse Expr := do
  let lbrack ← expect .lbrack
  if ← at? .rbrack then refuse
  let (first, bounds, more) ← nested do
    let first ← if ← at? .colon then pure none else some <$> g.expr
    match ← tok with
    | .colon => pure (first, ← sliceBounds g, [])
    | .comma =>
      let more ← iterate (fun found => do
        if ← at? .comma then
          next
          let t ← tok
          if t == .rbrack || t == .eof then return .inl found
          return .inl (found ++ [← g.type])
        else return .inr found) ([] : List Expr)
      pure (first, [], more)
    | _ => pure (first, [], [])
  let rbrack ← expect .rbrack
  match first, bounds with
  | some index, [] => return withIndices x lbrack (index :: more) rbrack
  | low, [high] => return .mk x.start (rbrack + 1) (.slice x lbrack low high none rbrack)
  | low, [some high, some max] =>
    return .mk x.start (rbrack + 1) (.slice x lbrack low (some high) (some max) rbrack)
  | _, _ => refuse

/-- The arguments of a call. Nothing but a comma may follow an ellipsis. -/
def call (fn : Expr) : Parse Expr := do
  let lparen ← expect .lparen
  let (arguments, ellipsis) ← nested (iterate (fun (found, ellipsis) => do
    let t ← tok
    if t == .rparen || t == .eof || ellipsis != 0 then return .inr (found, ellipsis)
    let found := found ++ [← g.expr]
    let ellipsis ← if ← at? .ellipsis then expect .ellipsis else pure 0
    if ← comma? .rparen then return .inl (found, ellipsis)
    else return .inr (found, ellipsis)) (([] : List Expr), 0))
  let rparen ← expect .rparen
  return .mk fn.start (rparen + 1) (.call fn lparen arguments ellipsis rparen)

/-- Where a composite value starts: at its type, if it has one. -/
private def compositeStart (type : Option Expr) (lbrace : Pos) : Pos :=
  match type with
  | some t => t.start
  | none => lbrace

/-- A value inside a composite value, at most `depth` braces deep; the type of an inner composite value
may be left out. -/
def elementValue : (depth : Nat) → Parse Expr
  | 0 => refuse
  | depth + 1 => do
    if ← at? .lbrace then
      let lbrace ← expect .lbrace
      let elements ← nested (listUntil .rbrace do
        let x ← elementValue depth
        if ← at? .colon then
          let colon ← expect .colon
          let value ← elementValue depth
          return .mk x.start value.finish (.keyValue x colon value)
        else return x)
      let rbrace ← expect .rbrace
      return .mk lbrace (rbrace + 1) (.composite none lbrace elements rbrace)
    else g.expr

/-- A composite value, perhaps without a type. -/
def composite (type : Option Expr) : Parse Expr := do
  let c ← get
  match ← elementValue g (c.items.size + 1 - c.index) with
  | .mk _ finish (.composite _ lbrace elements rbrace) =>
    return .mk (compositeStart type lbrace) finish (.composite type lbrace elements rbrace)
  | _ => refuse

/-- Whether an opening brace behind an operand begins a composite value. In the header of a control
statement it does so only behind a type that is no name. -/
def opensComposite (x : Expr) (level : Int) : Bool :=
  match x.unparen.shape with
  | .ident _ | .selector .. | .index .. => level ≥ 0
  | .arrayType .. | .structType _ | .mapType .. => true
  | _ => false

def isParen (x : Expr) : Bool :=
  match x.shape with
  | .paren .. => true
  | _ => false

/-- What may follow an operand, in any number. -/
def primaryAfter (x : Expr) : Parse Expr :=
  iterate (fun (x : Expr) => do
    match ← tok with
    | .period =>
      next
      return .inl (← afterPeriod g x)
    | .lbrack => return .inl (← brackets g x)
    | .lparen => return .inl (← call g x)
    | .lbrace =>
      if !opensComposite x (← get).level then return .inr x
      if isParen x then refuse
      return .inl (← composite g (some x))
    | _ => return .inr x) x

def primary : Parse Expr := do
  primaryAfter g (← operand g)

/-- Let an arrow in front of a channel type belong to the type: a type for sending passes its own arrow on
to the type inside. -/
def receiveOnly? (arrow : Pos) : Expr → Option Expr
  | .mk _ finish (.chanType _ .both value) => some (.mk arrow finish (.chanType arrow .receive value))
  | .mk _ finish (.chanType inner .send value) =>
    (receiveOnly? inner value).map fun value => .mk arrow finish (.chanType arrow .receive value)
  | _ => none

/-- Whether an expression is a channel type. -/
private def isChannel (x : Expr) : Bool :=
  match x.shape with
  | .chanType .. => true
  | _ => false

/-- An expression without binary operators. -/
def unaryHere : Parse Expr := do
  let item ← peek
  match item.tok with
  | .add | .sub | .not | .xor | .and | .tilde =>
    next
    let x ← g.unary
    return .mk item.pos x.finish (.unary item.tok x)
  | .arrow =>
    next
    let x ← g.unary
    if isChannel x then
      match receiveOnly? item.pos x with
      | some x => return x
      | none => refuse
    else return .mk item.pos x.finish (.unary .arrow x)
  | .mul =>
    next
    let x ← g.unary
    return .mk item.pos x.finish (.star x)
  | _ => primary g

/-- The binary operators behind an expression that bind at least as strongly as `least`. -/
def binaryAfter (least : Nat) (x : Expr) : Parse Expr :=
  iterate (fun (x : Expr) => do
    let item ← peek
    let strength := item.tok.precedence
    if strength < least then return .inr x
    next
    let y ← g.binary (strength + 1)
    return .inl (.mk x.start y.finish (.binary x item.pos item.tok y))) x

/-- An expression whose binary operators bind at least as strongly as `least`. -/
def binaryHere (least : Nat) : Parse Expr := do
  binaryAfter g least (← unaryHere g)

def exprHere : Parse Expr :=
  binaryHere g (Tok.lowestPrecedence + 1)

end SystemLoops.Source.Grammar
