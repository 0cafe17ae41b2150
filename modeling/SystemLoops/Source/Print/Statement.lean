import SystemLoops.Source.Parse.File
import SystemLoops.Source.Print.Constraints
import SystemLoops.Source.Print.Expr
import SystemLoops.Text.Quote

namespace SystemLoops.Source

open Print

/-! ### Parentheses around conditions -/

namespace Expr

/-- Whether an expression is a name, perhaps of another package. -/
def isTypeName : Expr → Bool
  | .mk _ _ (.ident _) => true
  | .mk _ _ (.selector x _) => x.isTypeName
  | _ => false

end Expr

mutual

/-- Whether a composite value that starts with a type name stands in an expression outside of all
parentheses. -/
def exposesComposite : Expr → Bool
  | .mk _ _ shape => exposesShape shape

def exposesComposite? : Option Expr → Bool
  | none => false
  | some x => exposesComposite x

def exposesAny : List Expr → Bool
  | [] => false
  | x :: rest => exposesComposite x || exposesAny rest

def exposesShape : ExprShape → Bool
  | .composite type _ _ _ => match type with
    | some t => t.isTypeName
    | none => false
  | .selector x _ | .star x | .unary _ x | .chanType _ _ x => exposesComposite x
  | .index x _ indices _ => exposesComposite x || exposesAny indices
  | .slice x _ low high max _ =>
    exposesComposite x || exposesComposite? low || exposesComposite? high || exposesComposite? max
  | .typeAssert x _ type _ => exposesComposite x || exposesComposite? type
  | .call fn _ arguments _ _ => exposesComposite fn || exposesAny arguments
  | .binary x _ _ y | .keyValue x _ y | .mapType x y => exposesComposite x || exposesComposite y
  | .ellipsis element => exposesComposite? element
  | .arrayType length element => exposesComposite? length || exposesComposite element
  | .function type body => exposesFunction type || exposesBlock body
  | .structType fields | .interfaceType fields => exposesFields fields
  | .funcType type => exposesFunction type
  | .ident _ | .literal _ | .paren .. => false

def exposesFieldEntries : List Field → Bool
  | [] => false
  | .mk _ _ type _ _ :: rest => exposesComposite type || exposesFieldEntries rest

def exposesFields : FieldList → Bool
  | .mk _ fields _ => exposesFieldEntries fields

def exposesFields? : Option FieldList → Bool
  | none => false
  | some fields => exposesFields fields

def exposesFunction : FuncType → Bool
  | .mk _ _ typeParams params results =>
    exposesFields? typeParams || exposesFields params || exposesFields? results

def exposesStatements : List Statement → Bool
  | [] => false
  | s :: rest => exposesStatement s || exposesStatements rest

def exposesBlock : Block → Bool
  | .mk _ statements _ => exposesStatements statements

def exposesStatement? : Option Statement → Bool
  | none => false
  | some s => exposesStatement s

def exposesStatement : Statement → Bool
  | .mk _ _ shape => exposesStatementShape shape

def exposesStatementShape : StatementShape → Bool
  | .declare d => exposesGroup d
  | .empty | .branch .. => false
  | .labeled _ _ inner => exposesStatement inner
  | .expr x | .incDec x _ _ | .launch _ x => exposesComposite x
  | .send x _ y => exposesComposite x || exposesComposite y
  | .assign left _ _ right => exposesAny left || exposesAny right
  | .giveBack results => exposesAny results
  | .block b => exposesBlock b
  | .conditional init condition body otherwise =>
    exposesStatement? init || exposesComposite condition || exposesBlock body
      || exposesStatement? otherwise
  | .caseClause list _ body => exposesAny list || exposesStatements body
  | .choice init tag body => exposesStatement? init || exposesComposite? tag || exposesBlock body
  | .typeChoice init guarded body =>
    exposesStatement? init || exposesStatement guarded || exposesBlock body
  | .commClause comm _ body => exposesStatement? comm || exposesStatements body
  | .select body => exposesBlock body
  | .loop init condition post body =>
    exposesStatement? init || exposesComposite? condition || exposesStatement? post || exposesBlock body
  | .range key value _ _ x body =>
    exposesComposite? key || exposesComposite? value || exposesComposite x || exposesBlock body

def exposesSpecs : List Spec → Bool
  | [] => false
  | .imported .. :: rest => exposesSpecs rest
  | .value _ _ type values _ :: rest => exposesComposite? type || exposesAny values || exposesSpecs rest
  | .type _ _ typeParams _ type _ :: rest =>
    exposesFields? typeParams || exposesComposite type || exposesSpecs rest

def exposesGroup : GroupDecl → Bool
  | .mk _ _ _ _ specs _ => exposesSpecs specs

end

/-- An expression without the parentheses that it does not need in front of a brace. -/
def Expr.withoutParens : Expr → Expr
  | x@(.mk _ _ (.paren inner _)) => if exposesComposite inner then x else inner.withoutParens
  | x => x

namespace Printer

variable (p : Printer)

/-! ### Declarations -/

private def hasValues : Spec → Bool
  | .value _ _ _ values _ => !values.isEmpty
  | _ => false

private def hasType : Spec → Bool
  | .value _ _ type _ _ => type.isSome
  | _ => false

/-- For each entry of a declaration whether the column of types is kept in front of its values: it is
where an entry of the same run of entries with values has a type. -/
def keepsTypes (specs : List Spec) : List Bool :=
  let runs := specs.splitBy fun a b => hasValues a == hasValues b
  runs.flatMap fun run => run.map fun s => hasValues s && run.any hasType

/-- Print an entry of a group of constants or variables, in columns. -/
def valueInColumns (names : List Ident) (type : Option Expr) (values : List Expr)
    (comment : Option CommentGroup) (keepsType : Bool) : Print Unit := do
  identList p names false
  if type.isSome || keepsType then white .column
  match type with
  | some t => p.plain t
  | none => pure ()
  if !values.isEmpty then
    white .column
    token .assign
    white .blank
    exprList p 0 values 1 {} 0
  if comment.isSome then
    whites (3 - (if type.isSome || keepsType then 1 else 0) - (if values.isEmpty then 0 else 1)) .column

/-- Whether a character may stand in an import path that is written between double quotes. -/
private def isPathChar (c : Char) : Bool :=
  Unicode.isPrintable c && c != ' ' && c != Rune.replacement
    && !"!\"#$%&'()*,:;<=>?[\\]^\x7b|\x7d\x60".toList.contains c

/-- The literal of an import path, between double quotes where possible. -/
def pathText (l : Literal) : Text :=
  match Text.unquote? l.value with
  | some path =>
    if !path.isEmpty && (Text.chars path).all isPathChar then Text.quote path else l.value
  | none => l.value

/-- Print an entry of a declaration that has `n` entries. -/
def spec (s : Spec) (n : Nat) (indents : Bool) : Print Unit := do
  match s with
  | .imported _ given path _ finish =>
    match given with
    | some i =>
      p.plain (.ofIdent i)
      white .blank
    | none => pure ()
    p.plain (.ofLiteral { path with value := pathText path })
    setPos finish
  | .value _ names type values _ =>
    identList p names indents
    match type with
    | some t =>
      white .blank
      p.plain t
    | none => pure ()
    if !values.isEmpty then
      white .blank
      token .assign
      white .blank
      exprList p 0 values 1 {} 0
  | .type _ declared typeParams assign type _ =>
    p.plain (.ofIdent declared)
    match typeParams with
    | some l => parameters p l .typeTypes
    | none => pure ()
    white (if n == 1 then .blank else .column)
    if assign != 0 then
      token .assign
      white .blank
    p.plain type

/-- Print the entries of a group on lines of their own. -/
private def specLines (columns : Bool) (n : Nat) : (first : Bool) → (line : Nat) →
    List (Spec × Bool) → Print Unit
  | _, _, [] => pure ()
  | first, line, (s, keepsType) :: rest => do
    if !first then
      let _ ← lineBreak (← lineOf s.start) 1 .none ((← linesSince line) > 0)
    let line ← startingAt <|
      match columns, s with
      | true, .value _ names type values comment => valueInColumns p names type values comment keepsType
      | _, _ => spec p s n false
    specLines columns n false line rest

/-- Print a declaration other than that of a function. -/
def group (d : GroupDecl) : Print Unit := do
  setPos d.tokPos
  token d.tok
  white .blank
  match d.lparen, d.specs with
  | 0, [s] => spec p s 1 true
  | _, specs =>
    setPos d.lparen
    token .lparen
    if !specs.isEmpty then
      white .indent
      white .formFeed
      let columns := specs.length > 1 && (d.tok == .kwConst || d.tok == .kwVar)
      specLines p columns specs.length true 0 (specs.zip (keepsTypes specs))
      white .unindent
      white .formFeed
    setPos d.rparen
    token .rparen

def function (d : FuncDecl) : Print Unit := do
  setPos d.type.start
  token .kwFunc
  white .blank
  let column := (← get).outColumn - 5
  match d.receiver with
  | some r =>
    parameters p r .values
    white .blank
  | none => pure ()
  p.plain (.ofIdent d.name)
  signature p d.type
  match d.body with
  | some b => functionBody p (← distanceFrom d.type.start column) .column b
  | none => pure ()

/-! ### Statements -/

/-- Print a header: a statement, an expression and a statement, with the semicolons that are needed. -/
def header (isLoop : Bool) (init : Option Statement) (x : Option Expr) (post : Option Statement) :
    Print Unit := do
  white .blank
  let expression : Print Unit := match x with
    | some x => p.plain x.withoutParens
    | none => pure ()
  if init.isNone && post.isNone then
    expression
    if x.isSome then white .blank
  else
    match init with
    | some s => p.statement s false
    | none => pure ()
    token .semicolon
    white .blank
    expression
    if isLoop then
      token .semicolon
      white .blank
      match post with
      | some s =>
        p.statement s false
        white .blank
      | none => pure ()
    else if x.isSome then white .blank

/-- Whether some entry of a list starts on another line than the one before ends. -/
private def startsLine (line : Nat) : List Expr → Print Bool
  | [] => return false
  | x :: rest => do
    if line < (← lineOf x.start) then return true
    startsLine (← lineOf x.finish) rest

/-- Whether a list looks better indented as a whole: when an entry starts a line. -/
def indentsWhole (xs : List Expr) : Print Bool := do
  match xs.head? with
  | some first => startsLine (← lineOf first.start) xs
  | none => return false

def statementHere (s : Statement) (beforeBrace : Bool) : Print Unit := do
  setPos s.start
  match s.shape with
  | .declare d => group p d
  | .empty => pure ()
  | .labeled label colon inner =>
    white .unindent
    p.plain (.ofIdent label)
    setPos colon
    token .colon
    white .indent
    if inner.isEmpty then
      if !beforeBrace then
        white .newline
        setPos inner.start
        token .semicolon
      else setPos inner.start
    else
      let _ ← lineBreak (← lineOf inner.start) 1 .none true
      p.statement inner beforeBrace
  | .expr x => p.plain x
  | .send channel arrow value =>
    p.plain channel
    white .blank
    setPos arrow
    token .arrow
    white .blank
    p.plain value
  | .incDec x tokPos tok =>
    p.expr x Tok.lowestPrecedence 2
    setPos tokPos
    token tok
  | .assign left tokPos tok right =>
    let depth := if left.length > 1 && right.length > 1 then 2 else 1
    exprList p s.start left depth {} tokPos
    white .blank
    setPos tokPos
    token tok
    white .blank
    exprList p tokPos right depth {} 0
  | .launch tok call =>
    token tok
    white .blank
    p.plain call
  | .giveBack results =>
    token .kwReturn
    if !results.isEmpty then
      white .blank
      if ← indentsWhole results then
        white .indent
        exprList p 0 results 1 { indents := false } 0
        white .unindent
      else exprList p 0 results 1 {} 0
  | .branch tok label =>
    token tok
    match label with
    | some l =>
      white .blank
      p.plain (.ofIdent l)
    | none => pure ()
  | .block b => block p b true
  | .conditional init condition body otherwise =>
    token .kwIf
    header p false init (some condition) none
    block p body true
    match otherwise with
    | some e =>
      white .blank
      token .kwElse
      white .blank
      p.statement e beforeBrace
    | none => pure ()
  | .caseClause list colon body =>
    if list.isEmpty then token .kwDefault
    else
      token .kwCase
      white .blank
      exprList p s.start list 1 {} colon
    setPos colon
    token .colon
    statements p body true beforeBrace
  | .choice init tag body =>
    token .kwSwitch
    header p false init tag none
    block p body false
  | .typeChoice init guarded body =>
    token .kwSwitch
    match init with
    | some i =>
      white .blank
      p.statement i false
      token .semicolon
    | none => pure ()
    white .blank
    p.statement guarded false
    white .blank
    block p body false
  | .commClause comm colon body =>
    match comm with
    | some c =>
      token .kwCase
      white .blank
      p.statement c false
    | none => token .kwDefault
    setPos colon
    token .colon
    statements p body true beforeBrace
  | .select body =>
    token .kwSelect
    white .blank
    if body.statements.isEmpty && !(← commentBefore (body.rbrace - 1)) then
      setPos body.lbrace
      token .lbrace
      setPos body.rbrace
      token .rbrace
    else block p body false
  | .loop init condition post body =>
    token .kwFor
    header p true init condition post
    block p body true
  | .range key value tokPos tok x body =>
    token .kwFor
    white .blank
    match key with
    | some k =>
      p.plain k
      match value with
      | some v =>
        setPos v.start
        token .comma
        white .blank
        p.plain v
      | none => pure ()
      white .blank
      setPos tokPos
      token tok
      white .blank
    | none => pure ()
    token .kwRange
    white .blank
    p.plain x.withoutParens
    white .blank
    block p body true

/-- The printer for trees of a depth up to `n`. -/
def level : (n : Nat) → Printer
  | 0 => nothing
  | n + 1 =>
    let p := level n
    { expr := exprHere p, statement := statementHere p }

/-! ### Files -/

/-- Print declarations. Those of another kind, and those with documentation, are set off by a blank line. -/
private def declLines : (previous : Tok) → List Decl → Print Unit
  | _, [] => pure ()
  | previous, d :: rest => do
    if !(← get).output.isEmpty then
      let least := if previous != d.tok || d.doc.isSome then 2 else 1
      let lines := (← lineOf d.finish) - (← lineOf d.start) + 1
      let _ ← lineBreak (← lineOf d.start) least .none (d.tok == .kwFunc && lines > 1)
    match d with
    | .group g => group p g
    | .function f => function p f
    declLines d.tok rest

def file (f : File) : Print Unit := do
  setPos f.package
  token .kwPackage
  white .blank
  p.plain (.ofIdent f.name)
  declLines p .illegal f.decls
  white .newline

end Printer

namespace Parsed

/-- The text of a parsed file in standard layout. `depth` bounds the depth of its tree. -/
def print (parsed : Parsed) (depth : Nat) : Text :=
  let whole : Print Unit := do
    (Printer.level depth).file parsed.file
    modify fun s => { s with impliesEnd := false }
    let _ ← flush ⟨infinity, infinity, 0⟩ .eof
  let settings : PrintSettings := { lines := parsed.lines, normalizes := true }
  let (_, s) := (whole.run settings).run { comments := parsed.file.comments }
  Columns.trim (Columns.align s.gatherConstraints)

end Parsed

end SystemLoops.Source
