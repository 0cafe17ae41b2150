import SystemLoops.Source.Parse.Expr

namespace SystemLoops.Source.Grammar

open Parse

variable (g : Grammar)

/-! ### Declarations -/

/-- An entry of an import declaration. -/
def importSpec (doc : Option CommentGroup) : Parse Spec := do
  let item ← peek
  let name ← match item.tok with
    | .ident => some <$> ident
    | .period =>
      next
      pure (some ⟨item.pos, [0x2E]⟩)
    | _ => pure none
  if !(← at? .string) then refuse
  let path ← literal
  let comment ← endOfLine
  return .imported doc name path comment 0

/-- The values behind an equals sign, if there is one. -/
def initialValues : Parse (List Expr) := do
  if ← at? .assign then
    next
    sepBy g.expr
  else return []

/-- An entry of a constant declaration. -/
def constSpec (doc : Option CommentGroup) : Parse Spec := do
  let names ← sepBy ident
  let type ← g.type?
  let values ← initialValues g
  let comment ← endOfLine
  return .value doc names type values comment

/-- An entry of a variable declaration; it has a type or values. -/
def varSpec (doc : Option CommentGroup) : Parse Spec := do
  let names ← sepBy ident
  let type ← if ← at? .assign then pure none else some <$> g.type
  let values ← initialValues g
  let comment ← endOfLine
  return .value doc names type values comment

/-- Split what was read as one expression into the name of a type parameter and its constraint.
`forced` says that it cannot be anything else. -/
def splitName? : (forced : Bool) → Expr → Option (Ident × Option Expr)
  | forced, .mk start finish shape => match shape with
    | .ident name => some (⟨start, name⟩, none)
    | .binary x opPos op y =>
      if op == .mul then
        match x.ident? with
        | some name =>
          if forced || y.isTypeElement then some (name, some (.mk opPos y.finish (.star y)))
          else none
        | none => none
      else if op == .or then
        match splitName? (forced || y.isTypeElement) x with
        | some (name, some left) =>
          some (name, some (.mk left.start finish (.binary left opPos op y)))
        | _ => none
      else none
    | .call fn lparen [argument] 0 rparen =>
      match fn.ident? with
      | some name =>
        if forced || argument.isTypeElement then
          some (name, some (.mk lparen (rparen + 1) (.paren argument rparen)))
        else none
      | none => none
    | _ => none

/-- The rest of a type declaration behind its type parameters: an equals sign makes it an alias. -/
def definedType : Parse (Pos × Expr) := do
  let assign ← if ← at? .assign then expect .assign else pure 0
  return (assign, ← g.type)

/-- What follows a declared name and an opening bracket: type parameters or an array type. -/
def bracketedType (lbrack : Pos) : Parse (Option FieldList × Pos × Expr) := do
  if !(← at? .ident) then return (none, 0, ← arrayRest g lbrack none)
  let name ← ident
  let x ←
    if ← at? .lbrack then pure (Expr.ofIdent name)
    else nested do binaryAfter g (Tok.lowestPrecedence + 1) (← primaryAfter g (.ofIdent name))
  let t ← tok
  match splitName? (t == .comma) x with
  | some (param, constraint) =>
    if constraint.isSome || t != .rbrack then
      let fields ← paramList g (some param) constraint .rbrack false
      let closing ← expect .rbrack
      let (assign, type) ← definedType g
      return (some (.mk lbrack fields closing), assign, type)
    else return (none, 0, ← arrayRest g lbrack (some x))
  | none => return (none, 0, ← arrayRest g lbrack (some x))

/-- An entry of a type declaration. -/
def typeSpec (doc : Option CommentGroup) : Parse Spec := do
  let name ← ident
  let (params, assign, type) ←
    if ← at? .lbrack then
      let lbrack ← expect .lbrack
      bracketedType g lbrack
    else
      let (assign, type) ← definedType g
      pure (none, assign, type)
  let comment ← endOfLine
  return .type doc name params assign type comment

/-- A declaration with one entry, or with any number of entries in parentheses. -/
def groupDecl : Parse GroupDecl := do
  let first ← peek
  let entry : Option CommentGroup → Parse Spec ← match first.tok with
    | .kwImport => pure importSpec
    | .kwConst => pure (constSpec g)
    | .kwVar => pure (varSpec g)
    | .kwType => pure (typeSpec g)
    | _ => refuse
  next
  if ← at? .lparen then
    let lparen ← expect .lparen
    let specs ← many (fun t => t != .rparen && t != .eof) do entry (← peek).lead
    let rparen ← expect .rparen
    let _ ← endOfLine
    return .mk first.lead first.pos first.tok lparen specs rparen
  else return .mk first.lead first.pos first.tok 0 [← entry none] 0

/-! ### Simple statements -/

inductive SimpleContext where
  | plain
  | labelAllowed
  | rangeAllowed
deriving DecidableEq

/-- The range clause of a loop before its body is read. -/
structure RangeClause where
  left : List Expr
  tokPos : Pos
  tok : Tok
  x : Expr

/-- A simple statement, or the range clause of a loop. -/
inductive Simple where
  | statement (s : Statement)
  | range (r : RangeClause)

def assigns (t : Tok) : Bool :=
  [.define, .assign, .addAssign, .subAssign, .mulAssign, .quoAssign, .remAssign, .andAssign,
   .orAssign, .xorAssign, .shlAssign, .shrAssign, .andNotAssign].contains t

private def firstStart (xs : List Expr) : Pos :=
  match xs.head? with
  | some x => x.start
  | none => 0

private def lastFinish (xs : List Expr) : Pos :=
  match xs.getLast? with
  | some x => x.finish
  | none => 0

/-- An assignment of the values on the right to those on the left. -/
def assignment (left : List Expr) (tokPos : Pos) (tok : Tok) (right : List Expr) : Statement :=
  .mk (firstStart left) (lastFinish right) (.assign left tokPos tok right)

/-- A simple statement: an assignment, a label, a send, a step by one, or an expression. -/
def simple (context : SimpleContext) : Parse Simple := do
  let xs ← sepBy g.expr
  let item ← peek
  if assigns item.tok then
    next
    let mayRange := context == .rangeAllowed && (item.tok == .define || item.tok == .assign)
    if mayRange && (← at? .kwRange) then
      next
      return .range ⟨xs, item.pos, item.tok, ← g.expr⟩
    return .statement (assignment xs item.pos item.tok (← sepBy g.expr))
  match xs with
  | [x] =>
    match item.tok with
    | .colon =>
      next
      match context, x.ident? with
      | .labelAllowed, some label =>
        let inner ← g.statement
        return .statement (.mk x.start inner.finish (.labeled label item.pos inner))
      | _, _ => refuse
    | .arrow =>
      next
      let value ← g.expr
      return .statement (.mk x.start value.finish (.send x item.pos value))
    | .inc | .dec =>
      next
      return .statement (.mk x.start item.finish (.incDec x item.pos item.tok))
    | _ => return .statement (.mk x.start x.finish (.expr x))
  | _ => refuse

def plainSimple (context : SimpleContext) : Parse Statement := do
  match ← simple g context with
  | .statement s => return s
  | .range _ => refuse

def exprOf (s : Statement) : Parse Expr :=
  match s.shape with
  | .expr x => return x
  | _ => refuse

/-- The expression that a statement is, where there is a statement. -/
def exprOf? : Option Statement → Parse (Option Expr)
  | some s => some <$> exprOf s
  | none => return none

/-! ### Control statements -/

/-- A call that is started or put off. -/
def launch (tok : Tok) : Parse Statement := do
  let start ← expect tok
  let x ← g.expr
  match x.shape with
  | .call .. =>
    let _ ← endOfLine
    return .mk start x.finish (.launch tok x)
  | _ => refuse

/-- The end of a function with its results. -/
def giveBack : Parse Statement := do
  let item ← peek
  next
  let t ← tok
  let results ← if t == .semicolon || t == .rbrace then pure [] else sepBy g.expr
  let _ ← endOfLine
  return .mk item.pos (if results.isEmpty then item.finish else lastFinish results)
    (.giveBack results)

/-- A jump; only the jump to a label always names one. -/
def branch (tok : Tok) : Parse Statement := do
  let item ← peek
  next
  let named ← at? .ident
  let label ←
    if tok == .kwGoto || (named && (tok == .kwBreak || tok == .kwContinue)) then some <$> ident
    else pure none
  let _ ← endOfLine
  let finish := match label with
    | some l => l.finish
    | none => item.finish
  return .mk item.pos finish (.branch tok label)

/-- The header of a conditional: perhaps a statement, and the condition. -/
def conditionHeader : Parse (Option Statement × Expr) := do
  if ← at? .lbrace then refuse
  header do
    let first ← if ← at? .semicolon then pure none else some <$> plainSimple g .plain
    if ← at? .lbrace then
      match first with
      | some s => return (none, ← exprOf s)
      | none => refuse
    else
      let _ ← expect .semicolon
      if ← at? .lbrace then refuse
      return (first, ← exprOf (← plainSimple g .plain))

def conditional : Parse Statement := do
  let start ← expect .kwIf
  let (init, condition) ← conditionHeader g
  let body ← block g
  if ← at? .kwElse then
    next
    let otherwise ← match ← tok with
      | .kwIf => g.statement
      | .lbrace =>
        let b ← block g
        let _ ← endOfLine
        pure (Statement.mk b.lbrace b.finish (.block b))
      | _ => refuse
    return .mk start otherwise.finish (.conditional init condition body (some otherwise))
  else
    let _ ← endOfLine
    return .mk start body.finish (.conditional init condition body none)

private def clauseFinish (colon : Pos) (body : List Statement) : Pos :=
  match body.getLast? with
  | some s => s.finish
  | none => colon + 1

def caseClause : Parse Statement := do
  let item ← peek
  let list ← match item.tok with
    | .kwCase =>
      next
      sepBy g.expr
    | _ =>
      let _ ← expect .kwDefault
      pure []
  let colon ← expect .colon
  let body ← statementList g
  return .mk item.pos (clauseFinish colon body) (.caseClause list colon body)

/-- Whether an expression asks for a type that is not named. -/
private def asksType (x : Expr) : Bool :=
  match x.shape with
  | .typeAssert _ _ none _ => true
  | _ => false

/-- Whether a statement guards a choice by type. A plain assignment must not. -/
def isTypeGuard (s : Statement) : Parse Bool :=
  match s.shape with
  | .expr x => return asksType x
  | .assign [_] _ tok [y] =>
    if asksType y then
      if tok == .assign then refuse else return tok == .define
    else return false
  | _ => return false

def clauses (clause : Parse Statement) : Parse Block := do
  let lbrace ← expect .lbrace
  let list ← many (fun t => t == .kwCase || t == .kwDefault) clause
  let rbrace ← expect .rbrace
  let _ ← endOfLine
  return .mk lbrace list rbrace

/-- A choice by value or by type. -/
def choice : Parse Statement := do
  let start ← expect .kwSwitch
  let (init, subject) ←
    if ← at? .lbrace then pure (none, none)
    else header do
      let first ← if ← at? .semicolon then pure none else some <$> plainSimple g .plain
      if ← at? .semicolon then
        next
        let second ← if ← at? .lbrace then pure none else some <$> plainSimple g .plain
        pure (first, second)
      else pure (none, first)
  let guarded ← match subject with
    | some s => isTypeGuard s
    | none => pure false
  let body ← clauses (caseClause g)
  match subject, guarded with
  | some s, true => return .mk start body.finish (.typeChoice init s body)
  | s, _ => return .mk start body.finish (.choice init (← exprOf? s) body)

def communication : Parse Statement := do
  let left ← sepBy g.expr
  let item ← peek
  match item.tok, left with
  | .arrow, [x] =>
    next
    let value ← g.expr
    return .mk x.start value.finish (.send x item.pos value)
  | .assign, _ | .define, _ =>
    if left.length > 2 then refuse
    next
    return assignment left item.pos item.tok [← g.expr]
  | _, [x] => return .mk x.start x.finish (.expr x)
  | _, _ => refuse

def commClause : Parse Statement := do
  let item ← peek
  let comm ← match item.tok with
    | .kwCase =>
      next
      some <$> communication g
    | _ =>
      let _ ← expect .kwDefault
      pure none
  let colon ← expect .colon
  let body ← statementList g
  return .mk item.pos (clauseFinish colon body) (.commClause comm colon body)

/-- A selection among communications. -/
def selection : Parse Statement := do
  let start ← expect .kwSelect
  let body ← clauses (commClause g)
  return .mk start body.finish (.select body)

inductive LoopHeader where
  | range (r : RangeClause)
  | steps (init condition post : Option Statement)

/-- What follows the first semicolon of the header of a loop. -/
def loopSteps (init : Option Statement) : Parse LoopHeader := do
  let condition ←
    if ← at? .semicolon then pure none
    else if ← at? .lbrace then refuse
    else some <$> plainSimple g .plain
  let _ ← endOfLine
  let post ← if ← at? .lbrace then pure none else some <$> plainSimple g .plain
  return .steps init condition post

def loopHeader : Parse LoopHeader := do
  match ← tok with
  | .lbrace => return .steps none none none
  | .kwRange =>
    next
    return .range ⟨[], 0, .illegal, ← g.expr⟩
  | .semicolon =>
    next
    loopSteps g none
  | _ =>
    match ← simple g .rangeAllowed with
    | .range r => return .range r
    | .statement s =>
      if ← at? .semicolon then
        next
        loopSteps g (some s)
      else return .steps none (some s) none

def loop : Parse Statement := do
  let start ← expect .kwFor
  let head ← if ← at? .lbrace then loopHeader g else header (loopHeader g)
  let body ← block g
  let _ ← endOfLine
  match head with
  | .steps init condition post =>
    return .mk start body.finish (.loop init (← exprOf? condition) post body)
  | .range r =>
    let (key, value) ← match r.left with
      | [] => pure (none, none)
      | [k] => pure (some k, none)
      | [k, v] => pure (some k, some v)
      | _ => refuse
    return .mk start body.finish (.range key value r.tokPos r.tok r.x body)

/-- Whether a token starts an expression that may stand as a statement. -/
def startsSimple (t : Tok) : Bool :=
  [.ident, .int, .float, .imag, .char, .string, .kwFunc, .lparen, .lbrack, .kwStruct, .kwMap,
   .kwChan, .kwInterface, .add, .sub, .mul, .and, .xor, .arrow, .not].contains t

private def isLabeled (s : Statement) : Bool :=
  match s.shape with
  | .labeled .. => true
  | _ => false

def statementHere : Parse Statement := do
  let item ← peek
  match item.tok with
  | .kwConst | .kwType | .kwVar =>
    let d ← groupDecl g
    return .mk d.tokPos d.finish (.declare d)
  | .kwGo => launch g .kwGo
  | .kwDefer => launch g .kwDefer
  | .kwReturn => giveBack g
  | .kwBreak | .kwContinue | .kwGoto | .kwFallthrough => branch item.tok
  | .lbrace =>
    let b ← block g
    let _ ← endOfLine
    return .mk b.lbrace b.finish (.block b)
  | .kwIf => conditional g
  | .kwSwitch => choice g
  | .kwSelect => selection g
  | .kwFor => loop g
  | .semicolon =>
    next
    return .mk item.pos (if isLineEnd item then item.pos else item.pos + 1) .empty
  | .rbrace => return .mk item.pos item.pos .empty
  | t =>
    if !startsSimple t then refuse
    let s ← plainSimple g .labelAllowed
    if isLabeled s then return s
    let _ ← endOfLine
    return s

/-- The grammar for texts with at most `n` levels of nesting. -/
def level : (n : Nat) → Grammar
  | 0 => nothing
  | n + 1 =>
    let g := level n
    { expr := exprHere g
      unary := unaryHere g
      binary := binaryHere g
      type? := typeHere? g
      statement := statementHere g }

end SystemLoops.Source.Grammar
