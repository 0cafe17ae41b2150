import SystemLoops.Source.Print.Writer

namespace SystemLoops.Source

open Print

/-- The parts of printing that contain themselves. Each part works for trees up to some depth and is built
from the parts for one level less. -/
structure Printer where
  /-- Print an expression whose context binds as strongly as `least`; `depth` grows with the nesting. -/
  expr : Expr → (least depth : Nat) → Print Unit
  /-- Print a statement; the flag says that a closing brace follows. -/
  statement : Statement → (beforeBrace : Bool) → Print Unit

namespace Printer

def nothing : Printer where
  expr := fun _ _ _ => pure ()
  statement := fun _ _ => pure ()

/-! ### Binary operators -/

/-- What the operators in an expression are like: whether there are sums, whether there are products, and
the strength of an operator that needs blanks lest it merge with its operand. -/
structure OperatorUse where
  sums : Bool
  products : Bool
  problem : Nat

namespace OperatorUse

/-- Both uses together. -/
def union (a b : OperatorUse) : OperatorUse :=
  ⟨a.sums || b.sums, a.products || b.products, max a.problem b.problem⟩

/-- The strength at which an operator and the operator of its right operand would merge. -/
def merging (op : Tok) (y : Expr) : Nat :=
  match y.shape with
  | .star _ => if op == .quo then 5 else 0
  | .unary inner _ =>
    match op, inner with
    | .quo, .mul | .and, .and | .and, .xor => 5
    | .add, .add | .sub, .sub => 4
    | _, _ => 0
  | _ => 0

/-- The use of operators in an expression that is the operand of operators of strength `least` and
more. -/
def ofOperand (least : Nat) : Expr → OperatorUse
  | .mk _ _ (.binary x _ op y) =>
    let strength := op.precedence
    if strength < least then ⟨false, false, 0⟩
    else
      let here : OperatorUse := ⟨strength == 4, strength == 5, merging op y⟩
      (here.union (ofOperand strength x)).union (ofOperand (strength + 1) y)
  | _ => ⟨false, false, 0⟩

end OperatorUse

/-- The strength from which on operators have no blanks around them. -/
def cutoff (x : Expr) (depth : Nat) : Nat :=
  let use := OperatorUse.ofOperand 0 x
  if use.problem > 0 then use.problem + 1
  else if use.sums && use.products then if depth == 1 then 5 else 4
  else if depth == 1 then 6
  else 4

/-- Whether an expression is no operation of a strength: then it is one level deeper. -/
def deeper (x : Expr) (strength : Nat) : Nat :=
  match x.shape with
  | .binary _ _ op _ => if op.precedence == strength then 0 else 1
  | _ => 1

/-- Whether an expression is an operation on two operands. -/
def isBinary (x : Expr) : Bool :=
  match x.shape with
  | .binary .. => true
  | _ => false

/-- The depth inside parentheses. -/
def reduced (depth : Nat) : Nat :=
  max 1 (depth - 1)

variable (p : Printer)

/-- Print an expression that stands alone. -/
def plain (x : Expr) : Print Unit :=
  p.expr x Tok.lowestPrecedence 1

/-- Print an operation. Blanks are left out from the strength `limit` on. -/
def binary (x : Expr) (opPos : Pos) (op : Tok) (y : Expr) (limit depth : Nat) : Print Unit := do
  let strength := op.precedence
  let blanks := strength < limit
  p.expr x strength (depth + deeper x strength)
  if blanks then white .blank
  let xLine ← currentLine
  let yLine ← lineOf y.start
  setPos opPos
  token op
  let broken ←
    if xLine != yLine && xLine > 0 && yLine > 0 then
      pure (decide ((← lineBreak yLine 1 .indent true) > 0))
    else pure false
  if blanks && !broken then white .blank
  p.expr y (strength + 1) (depth + 1)
  if broken then white .unindent

/-! ### Lists -/

/-- How a list of expressions is laid out. -/
structure ListMode where
  /-- The list may end with a comma. -/
  trailingComma : Bool := false
  /-- The lines after the first one are indented. -/
  indents : Bool := true

/-- The layout of a list so far. -/
structure ListState where
  /-- The white space to write before the first line break. -/
  before : White
  /-- One more than the index of the entry before which the line was last broken. -/
  unbroken : Nat := 0
  /-- The size of the entry before, zero when it does not fit on a line. -/
  size : Nat := 0
  /-- The product and the number of the sizes in the current columns. -/
  product : Nat := 1
  count : Nat := 0
  /-- The line of the entry before. -/
  line : Nat

def longLine : Nat := 1000000

/-- Sizes up to this one always fit into one column. -/
def smallSize : Nat := 40

/-- Whether a size is too unlike the geometric mean of the sizes before it: twelve fifths as large, or as
small. -/
def unlike (s : ListState) (size : Nat) : Bool :=
  Nat.pow (12 * size) s.count ≤ Nat.pow 5 s.count * s.product
    || Nat.pow 12 s.count * s.product ≤ Nat.pow (5 * size) s.count

/-- The key and value of an entry. -/
def pair? (x : Expr) : Option (Expr × Pos × Expr) :=
  match x.shape with
  | .keyValue key colon value => some (key, colon, value)
  | _ => none

/-- The size of an entry: that of its key, if it has one and fits on a line. -/
def entrySize (x : Expr) : Print Nat := do
  let whole ← measure longLine x.start x.finish (p.plain x)
  if whole > longLine then return 0
  match pair? x with
  | some (key, _, _) => measure longLine key.start key.finish (p.plain key)
  | none => return whole

/-- Print the entries of a list over several lines, from the entry with the given index on. `bounded` says
that the marks around the list are known, and `aligns` that there are several entries. -/
def entries (depth : Nat) (bounded aligns : Bool) : (index : Nat) → List Expr → ListState →
    Print ListState
  | _, [], s => return s
  | index, x :: rest, s => do
    let line ← lineOf x.start
    let size ← if bounded then entrySize p x else pure 0
    let feeds :=
      if s.size > 0 && size > 0 then
        if s.count == 0 || (s.size ≤ smallSize && size ≤ smallSize) then false else unlike s size
      else true
    let broken := 0 < s.line && s.line < line
    let s ←
      if index == 0 then pure s
      else do
        if !broken then setPos x.start
        token .comma
        let breaks ←
          if broken then lineBreak line 0 s.before (feeds || s.unbroken < index) else pure 0
        if breaks == 0 then white .blank
        let s := if breaks > 0 then { s with before := .none, unbroken := index + 1 } else s
        pure (if breaks > 1 then { s with product := 1, count := 0 } else s)
    match pair? x, aligns && size > 0 && broken with
    | some (key, colon, value), true =>
      p.plain key
      setPos colon
      token .colon
      white .column
      p.plain value
    | _, _ => p.expr x Tok.lowestPrecedence depth
    let s := if size > 0 then { s with product := s.product * size, count := s.count + 1 } else s
    entries depth bounded aligns (index + 1) rest { s with size, line }

def entriesOnLine (depth : Nat) : (first : Bool) → List Expr → Print Unit
  | _, [] => pure ()
  | first, x :: rest => do
    if !first then
      setPos x.start
      token .comma
      white .blank
    p.expr x Tok.lowestPrecedence depth
    entriesOnLine depth false rest

/-- Print a list of expressions between two places, either of which may be unknown. -/
def exprList (before : Pos) (xs : List Expr) (depth : Nat) (mode : ListMode) (after : Pos) :
    Print Unit := do
  match xs.head?, xs.getLast? with
  | some first, some last =>
    let beforeLine ← lineOf before
    let afterLine ← lineOf after
    let firstLine ← lineOf first.start
    let lastLine ← lineOf last.finish
    if before != 0 && beforeLine == firstLine && firstLine == lastLine then
      entriesOnLine p depth true xs
    else
      let inner : White := if mode.indents then .indent else .none
      let started ←
        if before != 0 && beforeLine < firstLine then
          pure (decide ((← lineBreak firstLine 0 inner true) > 0))
        else pure false
      let s : ListState :=
        { before := if started then .none else inner, unbroken := if started then 1 else 0
          line := beforeLine }
      let s ← entries p depth (before != 0 && after != 0) (xs.length > 1) 0 xs s
      let indented := s.before == .none && mode.indents
      let here ← currentLine
      if mode.trailingComma && after != 0 && here < afterLine then
        token .comma
        if indented then white .unindent
        white .formFeed
      else if indented then white .unindent
  | _, _ => pure ()

def identList (names : List Ident) (indents : Bool) : Print Unit :=
  exprList p 0 (names.map Expr.ofIdent) 1 { indents } 0

/-! ### Parameters and fields -/

/-- Whether a constraint right behind a name would read as an expression. -/
def combinesWithName : Expr → Bool
  | .mk _ _ (.star x) => !x.isTypeElement
  | .mk _ _ (.binary x _ _ y) => combinesWithName x && !y.isTypeElement
  | .mk _ _ (.paren x _) => !x.isTypeElement
  | _ => false

/-- The kinds of parameter lists. -/
inductive ParamKind where
  | values
  | functionTypes
  | typeTypes
deriving DecidableEq

/-- Print parameters, the first of which has index zero. `before` is the white space to write before the
first line break, and `line` the line on which the parameter before ends. -/
private def paramEntries : (index : Nat) → (before : White) → (line : Nat) → List Field →
    Print (White × Nat)
  | _, before, line, [] => return (before, line)
  | index, before, line, par :: rest => do
    let starts ← lineOf par.start
    let ends ← lineOf par.finish
    let broken := 0 < line && line < starts
    if index > 0 then
      if !broken then setPos par.start
      token .comma
    let breaks ← if broken then lineBreak starts 0 before true else pure 0
    let before := if breaks > 0 then .none else before
    if breaks == 0 && index > 0 then white .blank
    if !par.names.isEmpty then
      identList p par.names (before == .indent)
      white .blank
    p.plain par.type.unparen
    paramEntries (index + 1) before ends rest

def parameters (fields : FieldList) (kind : ParamKind) : Print Unit := do
  let (opening, closing) := if kind == .values then (Tok.lparen, Tok.rparen) else (.lbrack, .rbrack)
  setPos fields.opening
  token opening
  if !fields.fields.isEmpty then
    let line ← lineOf fields.opening
    let (before, line) ← paramEntries p 0 .indent line fields.fields
    let closingLine ← lineOf fields.closing
    if 0 < line && line < closingLine then
      token .comma
      let _ ← lineBreak closingLine 0 .none true
    else
      match kind, fields.fields with
      | .typeTypes, [f] =>
        if f.names.length ≤ 1 && combinesWithName f.type.unparen then token .comma
      | _, _ => pure ()
    if before == .none then white .unindent
  setPos fields.closing
  token closing

/-- Print the parameters and results of a function. -/
def signature (type : FuncType) : Print Unit := do
  match type.typeParams with
  | some l => parameters p l .functionTypes
  | none => pure ()
  parameters p type.params .values
  match type.results with
  | none => pure ()
  | some results =>
    match results.fields with
    | [] => pure ()
    | [f] =>
      white .blank
      if f.names.isEmpty then p.plain f.type.unparen else parameters p results .values
    | _ =>
      white .blank
      parameters p results .values

/-- The most bytes of a field that makes its struct fit on a line. -/
def maxFieldSize : Nat := 30

/-- The only field of a struct or interface that fits on one line. -/
def shortField? (fields : List Field) : Print (Option Field) := do
  match fields with
  | [f] =>
    if f.tag.isSome || f.comment.isSome then return none
    let size ← measure maxFieldSize f.type.start f.type.finish (p.plain f.type)
    if (if f.names.isEmpty then 0 else 1) + size ≤ maxFieldSize then return some f else return none
  | _ => return none

/-- Print the name and signature of a method, or an embedded type. -/
def method (f : Field) : Print Unit := do
  match f.names, f.type.shape with
  | n :: _, .funcType type =>
    p.plain (.ofIdent n)
    signature p type
  | _, _ => p.plain f.type

/-- Print white space several times. -/
def whites : (n : Nat) → White → Print Unit
  | 0, _ => pure ()
  | n + 1, w => do
    white w
    whites n w

private def structFields (separator : White) : (first : Bool) → (line : Nat) → List Field → Print Unit
  | _, _, [] => pure ()
  | first, line, f :: rest => do
    if !first then
      let _ ← lineBreak (← lineOf f.start) 1 .none ((← linesSince line) > 0)
    let line ← startingAt do
      if f.names.isEmpty then p.plain f.type
      else
        identList p f.names false
        white separator
        p.plain f.type
      match f.tag with
      | some tag =>
        if !f.names.isEmpty && separator == .column then white separator
        white separator
        p.plain (.ofLiteral tag)
      | none => pure ()
      if f.comment.isSome && f.tag.isNone then whites (if f.names.isEmpty then 2 else 1) separator
    structFields separator false line rest

/-- Print the methods and embedded types of an interface. -/
private def interfaceElements : (first : Bool) → (line : Nat) → List Field → Print Unit
  | _, _, [] => pure ()
  | first, line, f :: rest => do
    if !first then
      let _ ← lineBreak (← lineOf f.start) 1 .none ((← linesSince line) > 0)
    let line ← startingAt (method p f)
    interfaceElements false line rest

/-- Print the fields of a struct or the elements of an interface in braces. -/
def fieldList (fields : FieldList) (isStruct : Bool) : Print Unit := do
  let list := fields.fields
  let closing ← spotOf fields.closing
  let commented ← commentBefore closing.offset
  let oneLine := (← lineOf fields.opening) == closing.line
  let short ← if !commented && oneLine then shortField? p list else pure none
  if !commented && oneLine && list.isEmpty then
    setPos fields.opening
    token .lbrace
    setPos fields.closing
    token .rbrace
  else match short with
  | some f =>
    setPos fields.opening
    token .lbrace
    white .blank
    if isStruct then
      for (n, i) in f.names.zipIdx do
        if i > 0 then
          token .comma
          white .blank
        p.plain (.ofIdent n)
      if !f.names.isEmpty then white .blank
      p.plain f.type
    else method p f
    white .blank
    setPos fields.closing
    token .rbrace
  | none =>
    white .blank
    setPos fields.opening
    token .lbrace
    white .indent
    if commented || !list.isEmpty then white .formFeed
    if isStruct then structFields p (if list.length == 1 then .blank else .column) true 0 list
    else interfaceElements p true 0 list
    white .unindent
    white .formFeed
    setPos fields.closing
    token .rbrace

/-! ### Numbers -/

/-- A text with the last occurrence of a byte replaced. -/
private def replaceLast (old new : UInt8) (t : Text) : Text :=
  let after := (t.reverse.takeWhile (· != old)).length
  if after == t.length then t else t.take (t.length - after - 1) ++ new :: t.drop (t.length - after)

/-- The one way to write a number: marks of base and exponent in lower case, and no zeros in front of an
imaginary integer. -/
def normalNumber (l : Literal) : Text :=
  let t := l.value
  if l.kind != .int && l.kind != .float && l.kind != .imag then t
  else match t with
    | a :: b :: rest =>
      if a == 0x30 && (b == 0x58 || b == 0x78) then replaceLast 0x50 0x70 (a :: 0x78 :: rest)
      else if a == 0x30 && (b == 0x4F || b == 0x6F) then a :: 0x6F :: rest
      else if a == 0x30 && (b == 0x42 || b == 0x62) then a :: 0x62 :: rest
      else if t.contains 0x45 then replaceLast 0x45 0x65 t
      else if t.getLast? == some 0x69 && !t.contains 0x2E && !t.contains 0x65 then
        let stripped := t.dropWhile fun c => c == 0x30 || c == 0x5F
        if stripped.length == 1 then 0x30 :: stripped else stripped
      else t
    | _ => t

/-! ### Function bodies -/

/-- The most bytes of a function that fits on one line. -/
def maxFunctionSize : Nat := 100

/-- The most statements of a function that fits on one line. -/
def maxOneLineStatements : Nat := 5

def isLabeled (s : Statement) : Bool :=
  match s.shape with
  | .labeled .. => true
  | _ => false

/-- The size of statements on one line; beyond the limit it need not be exact. -/
private def statementsSize : (first : Bool) → (size : Nat) → List Statement → Print Nat
  | _, size, [] => return size
  | first, size, s :: rest => do
    if size > maxFunctionSize then return size
    let one ← measure maxFunctionSize s.start s.finish do
      if isLabeled s then modify fun state => { state with indent := 1 }
      p.statement s false
    statementsSize false (size + (if first then 0 else 2) + one) rest

def bodySize (b : Block) : Print Nat := do
  if (← lineOf b.lbrace) != (← lineOf b.rbrace) then return maxFunctionSize + 1
  if b.statements.length > maxOneLineStatements then return maxFunctionSize + 1
  let comments ← commentSizeBefore (b.rbrace - 1)
  statementsSize p true comments b.statements

/-- Print statements on lines of their own. Each clause of a choice is a new section. -/
private def statementLines (indents beforeBrace : Bool) (total : Nat) :
    (index : Nat) → (line : Nat) → List Statement → Print Unit
  | _, _, [] => pure ()
  | index, line, s :: rest => do
    if s.isEmpty then statementLines indents beforeBrace total index line rest
    else
      if !(← get).output.isEmpty then
        let newSection := index == 0 || !indents || (← linesSince line) > 0
        let _ ← lineBreak (← lineOf s.start) 1 .none newSection
      let line ← startingAt (p.statement s (beforeBrace && index + 1 == total))
      statementLines indents beforeBrace total (index + 1) (line + s.labels) rest

def statements (list : List Statement) (indents beforeBrace : Bool) : Print Unit := do
  if indents then white .indent
  statementLines p indents beforeBrace list.length 0 0 list
  if indents then white .unindent

/-- Print a block, which takes at least two lines. -/
def block (b : Block) (indents : Bool) : Print Unit := do
  setPos b.lbrace
  token .lbrace
  statements p b.statements indents true
  let _ ← lineBreak (← lineOf b.rbrace) 1 .none true
  setPos b.rbrace
  token .rbrace

private def statementsOnLine : (first : Bool) → List Statement → Print Unit
  | _, [] => pure ()
  | first, s :: rest => do
    if !first then
      token .semicolon
      white .blank
    p.statement s rest.isEmpty
    statementsOnLine false rest

/-- Print the body of a function whose header has a size. A small body stays on the line. -/
def functionBody (headerSize : Nat) (separator : White) (b : Block) : Print Unit := do
  let level := (← get).level
  modify fun s => { s with level := 0 }
  if headerSize + (← bodySize p b) ≤ maxFunctionSize then
    white separator
    setPos b.lbrace
    token .lbrace
    if !b.statements.isEmpty then
      white .blank
      statementsOnLine p true b.statements
      white .blank
    toggle false true
    setPos b.rbrace
    token .rbrace
    toggle false true
  else
    white .blank
    block p b true
  modify fun s => { s with level }

/-- The columns of the output since a column, when nothing broke the line since a place of the source. -/
def distanceFrom (start : Pos) (column : Nat) : Print Nat := do
  let s ← get
  if start != 0 && s.pos.line > 0 && (← lineOf start) == s.pos.line then return s.outColumn - column
  else return infinity

/-! ### Expressions -/

/-- Print a selection. The result tells whether the selected name is on a line of its own; then the
indentation that was opened for it is left to the caller if `keeps` says so. -/
def selection (x : Expr) (sel : Ident) (depth : Nat) (keeps : Bool) : Print Bool := do
  p.expr x Tok.highestPrecedence depth
  token .period
  let line ← lineOf sel.pos
  let here ← currentLine
  if 0 < here && here < line then
    white .indent
    white .newline
    setPos sel.pos
    name sel.name
    if !keeps then white .unindent
    return true
  else
    setPos sel.pos
    name sel.name
    return false

/-- Whether a type needs parentheses to be called. -/
private def needsParens (fn : Expr) : Bool :=
  match fn.shape with
  | .funcType _ => true
  | .chanType _ .receive _ => true
  | _ => false

def call (fn : Expr) (lparen : Pos) (arguments : List Expr) (ellipsis rparen : Pos) (depth : Nat) :
    Print Unit := do
  let depth := if arguments.length > 1 then depth + 1 else depth
  let parens := needsParens fn
  if parens then token .lparen
  let indented ← match fn.shape with
    | .selector x sel => selection p x sel depth true
    | _ =>
      p.expr fn Tok.highestPrecedence depth
      pure false
  if parens then token .rparen
  setPos lparen
  token .lparen
  if ellipsis != 0 then
    exprList p lparen arguments depth {} ellipsis
    setPos ellipsis
    token .ellipsis
    if rparen != 0 && (← lineOf ellipsis) < (← lineOf rparen) then
      token .comma
      white .formFeed
  else exprList p lparen arguments depth { trailingComma := true } rparen
  setPos rparen
  token .rparen
  if indented then white .unindent

private def sliceBounds (blanks : Bool) (depth : Nat) : (first : Bool) → (given : Bool) →
    List (Option Expr) → Print Unit
  | _, _, [] => pure ()
  | first, given, x :: rest => do
    if !first then
      if given && blanks then white .blank
      token .colon
      if x.isSome && blanks then white .blank
    match x with
    | some x => p.expr x Tok.lowestPrecedence (depth + 1)
    | none => pure ()
    sliceBounds blanks depth false x.isSome rest

/-- Print a slice. Its colons have blanks around them when a bound is an operation. -/
def slice (x : Expr) (lbrack : Pos) (bounds : List (Option Expr)) (rbrack : Pos) (depth : Nat) :
    Print Unit := do
  p.expr x Tok.highestPrecedence 1
  setPos lbrack
  token .lbrack
  let given := bounds.filterMap id
  let blanks := depth ≤ 1 && given.length > 1 && given.any isBinary
  sliceBounds p blanks depth true false bounds
  setPos rbrack
  token .rbrack

def composite (type : Option Expr) (lbrace : Pos) (elements : List Expr) (rbrace : Pos)
    (depth : Nat) : Print Unit := do
  match type with
  | some t => p.expr t Tok.highestPrecedence depth
  | none => pure ()
  modify fun s => { s with level := s.level + 1 }
  setPos lbrace
  token .lbrace
  exprList p lbrace elements 1 { trailingComma := true } rbrace
  white .indent
  white .unindent
  toggle (!elements.isEmpty) true
  setPos rbrace
  token .rbrace
  toggle (!elements.isEmpty) true
  modify fun s => { s with level := s.level - 1 }

/-- Print an expression of any kind. -/
def exprHere (x : Expr) (least depth : Nat) : Print Unit := do
  setPos x.start
  match x.shape with
  | .ident n => name n
  | .literal l =>
    literal l.kind (if (← read).normalizes then normalNumber l else l.value)
  | .binary l opPos op r => binary p l opPos op r (cutoff x (max 1 depth)) (max 1 depth)
  | .keyValue key colon value =>
    p.plain key
    setPos colon
    token .colon
    white .blank
    p.plain value
  | .star inner =>
    if Tok.unaryPrecedence < least then
      token .lparen
      token .mul
      p.plain inner
      token .rparen
    else
      token .mul
      p.plain inner
  | .unary op inner =>
    if Tok.unaryPrecedence < least then
      token .lparen
      setPos x.start
      token op
      p.expr inner Tok.unaryPrecedence 1
      token .rparen
    else
      token op
      p.expr inner Tok.unaryPrecedence depth
  | .function type body =>
    setPos type.start
    token .kwFunc
    let column := (← get).outColumn - 4
    signature p type
    functionBody p (← distanceFrom type.start column) .blank body
  | .paren inner rparen =>
    match inner.shape with
    | .paren .. => p.expr inner Tok.lowestPrecedence depth
    | _ =>
      token .lparen
      p.expr inner Tok.lowestPrecedence (reduced depth)
      setPos rparen
      token .rparen
  | .selector inner sel =>
    let _ ← selection p inner sel depth false
  | .typeAssert inner lparen type rparen =>
    p.expr inner Tok.highestPrecedence depth
    token .period
    setPos lparen
    token .lparen
    match type with
    | some t => p.plain t
    | none => token .kwType
    setPos rparen
    token .rparen
  | .index inner lbrack indices rbrack =>
    p.expr inner Tok.highestPrecedence 1
    setPos lbrack
    token .lbrack
    match indices with
    | [i] => p.expr i Tok.lowestPrecedence (depth + 1)
    | _ => exprList p lbrack indices (depth + 1) { trailingComma := true } rbrack
    setPos rbrack
    token .rbrack
  | .slice inner lbrack low high max rbrack =>
    slice p inner lbrack (low :: high :: (if max.isSome then [max] else [])) rbrack depth
  | .call fn lparen arguments ellipsis rparen => call p fn lparen arguments ellipsis rparen depth
  | .composite type lbrace elements rbrace => composite p type lbrace elements rbrace depth
  | .ellipsis element =>
    token .ellipsis
    match element with
    | some t => p.plain t
    | none => pure ()
  | .arrayType length element =>
    token .lbrack
    match length with
    | some n => p.plain n
    | none => pure ()
    token .rbrack
    p.plain element
  | .structType fields =>
    token .kwStruct
    fieldList p fields true
  | .funcType type =>
    token .kwFunc
    signature p type
  | .interfaceType methods =>
    token .kwInterface
    fieldList p methods false
  | .mapType key value =>
    token .kwMap
    token .lbrack
    p.plain key
    token .rbrack
    p.plain value
  | .chanType arrow direction value =>
    match direction with
    | .both => token .kwChan
    | .receive =>
      token .arrow
      token .kwChan
    | .send =>
      token .kwChan
      setPos arrow
      token .arrow
    white .blank
    p.plain value

end Printer

end SystemLoops.Source
