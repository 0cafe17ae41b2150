import SystemLoops.Source.Tree

/-!
Which packages a file refers to. A qualified name `p.x` refers to a package unless `p` is declared in an
enclosing scope or at the top of the file. Only the left side of a short variable declaration is never
looked up, so a qualified name there always counts.
-/

namespace SystemLoops.Source

/-- The names that are declared around a piece of source. -/
structure Scope where
  names : List Text
  /-- Names are not looked up here. -/
  unseen : Bool := false

namespace Scope

/-- The name that declares nothing. -/
def blank : Text := [0x5F]

def bind (s : Scope) (names : List Text) : Scope :=
  { s with names := names.filter (· != blank) ++ s.names }

/-- A scope in which nothing is looked up. -/
def hide (s : Scope) : Scope :=
  { s with unseen := true }

end Scope

/-- A name in front of a period that no local declaration explains. -/
structure Mention where
  name : Text
  unseen : Bool
deriving Repr

namespace Mention

/-- The mention in front of a period. -/
def ofBase (s : Scope) (x : Expr) : List Mention :=
  match x.ident? with
  | some i => if s.unseen then [⟨i.name, true⟩] else if s.names.contains i.name then [] else [⟨i.name, false⟩]
  | none => []

/-- The names among expressions. -/
def identNames (xs : List Expr) : List Text :=
  xs.filterMap fun x => x.ident?.map Ident.name

mutual

def ofExpr (s : Scope) : Expr → List Mention
  | .mk _ _ shape => ofShape s shape

def ofExpr? (s : Scope) : Option Expr → List Mention
  | none => []
  | some x => ofExpr s x

def ofExprs (s : Scope) : List Expr → List Mention
  | [] => []
  | x :: rest => ofExpr s x ++ ofExprs s rest

def ofShape (s : Scope) : ExprShape → List Mention
  | .ident _ | .literal _ => []
  | .function type body =>
    let (found, inner) := ofFuncType s type
    found ++ (ofBlock inner body).1
  | .composite type _ elements _ => ofExpr? s type ++ ofExprs s elements
  | .paren inner _ => ofExpr s inner
  | .selector x _ => ofBase s x ++ ofExpr s x
  | .index x _ indices _ => ofExpr s x ++ ofExprs s indices
  | .slice x _ low high max _ => ofExpr s x ++ ofExpr? s low ++ ofExpr? s high ++ ofExpr? s max
  | .typeAssert x _ type _ => ofExpr s x ++ ofExpr? s type
  | .call fn _ arguments _ _ => ofExpr s fn ++ ofExprs s arguments
  | .star x => ofExpr s x
  | .unary _ x => ofExpr s x
  | .binary x _ _ y => ofExpr s x ++ ofExpr s y
  | .keyValue key _ value => ofExpr s key ++ ofExpr s value
  | .ellipsis element => ofExpr? s element
  | .arrayType length element => ofExpr? s length ++ ofExpr s element
  | .structType fields => (ofFieldList s fields).1
  | .funcType type => (ofFuncType s type).1
  | .interfaceType methods => (ofFieldList s methods).1
  | .mapType key value => ofExpr s key ++ ofExpr s value
  | .chanType _ _ value => ofExpr s value

/-- The mentions in the types of fields, with the names of the fields. -/
def ofFields (s : Scope) : List Field → List Mention × List Text
  | [] => ([], [])
  | .mk _ names type _ _ :: rest =>
    let (found, more) := ofFields s rest
    (ofExpr s type ++ found, names.map Ident.name ++ more)

def ofFieldList (s : Scope) : FieldList → List Mention × List Text
  | .mk _ fields _ => ofFields s fields

def ofFieldList? (s : Scope) : Option FieldList → List Mention × List Text
  | none => ([], [])
  | some fields => ofFieldList s fields

/-- The mentions in a function type, and the scope of the function's body. -/
def ofFuncType (s : Scope) : FuncType → List Mention × Scope
  | .mk _ _ _ params results =>
    let (inParams, paramNames) := ofFieldList s params
    let (inResults, resultNames) := ofFieldList? s results
    (inParams ++ inResults, s.bind (paramNames ++ resultNames))

/-- The mentions in a list of statements, and the scope behind it. -/
def ofStatements (s : Scope) : List Statement → List Mention × Scope
  | [] => ([], s)
  | x :: rest =>
    let (found, next) := ofStatement s x
    let (more, last) := ofStatements next rest
    (found ++ more, last)

def ofBlock (s : Scope) : Block → List Mention × Scope
  | .mk _ statements _ => ofStatements s statements

def ofStatement? (s : Scope) : Option Statement → List Mention × Scope
  | none => ([], s)
  | some x => ofStatement s x

def ofStatement (s : Scope) : Statement → List Mention × Scope
  | .mk _ _ shape => ofStatementShape s shape

/-- The mentions in a statement, and the scope of the statements after it. -/
def ofStatementShape (s : Scope) : StatementShape → List Mention × Scope
  | .declare d => ofGroup s d
  | .empty => ([], s)
  | .labeled _ _ inner => ofStatement s inner
  | .expr x => (ofExpr s x, s)
  | .send channel _ value => (ofExpr s channel ++ ofExpr s value, s)
  | .incDec x _ _ => (ofExpr s x, s)
  | .assign left _ tok right =>
    if tok == .define then
      (ofExprs s right ++ ofExprs s.hide left, s.bind (identNames left))
    else (ofExprs s right ++ ofExprs s left, s)
  | .launch _ call => (ofExpr s call, s)
  | .giveBack results => (ofExprs s results, s)
  | .branch _ _ => ([], s)
  | .block b => ((ofBlock s b).1, s)
  | .conditional init condition body otherwise =>
    let (found, inner) := ofStatement? s init
    (found ++ ofExpr inner condition ++ (ofBlock inner body).1 ++ (ofStatement? inner otherwise).1, s)
  | .caseClause list _ body => (ofExprs s list ++ (ofStatements s body).1, s)
  | .choice init tag body =>
    let (found, inner) := ofStatement? s init
    (found ++ ofExpr? inner tag ++ (ofBlock inner body).1, s)
  | .typeChoice init guarded body =>
    let (found, inner) := ofStatement? s init
    let (more, guardScope) := ofStatement inner guarded
    (found ++ more ++ (ofBlock guardScope body).1, s)
  | .commClause comm _ body =>
    let (found, inner) := ofStatement? s comm
    (found ++ (ofStatements inner body).1, s)
  | .select body => ((ofBlock s body).1, s)
  | .loop init condition post body =>
    let (found, inner) := ofStatement? s init
    let (more, inner') := ofStatement? inner post
    (found ++ ofExpr? inner condition ++ more ++ (ofBlock inner' body).1, s)
  | .range key value _ tok x body =>
    let inner := if tok == .define then s.bind (identNames (key.toList ++ value.toList)) else s
    (ofExpr s x ++ ofExpr? s key ++ ofExpr? s value ++ (ofBlock inner body).1, s)

/-- The mentions in entries, the scope behind them inside their declaration, and the scope behind the
declaration. Type parameters stay in scope to the end of their declaration, and what is declared after
them goes out of scope with them. -/
def ofSpecs (inner outer : Scope) (generic : Bool) : List Spec → List Mention × Scope
  | [] => ([], outer)
  | .imported .. :: rest => ofSpecs inner outer generic rest
  | .value _ names type values _ :: rest =>
    let declared := names.map Ident.name
    let (more, last) := ofSpecs (inner.bind declared) (outer.bind declared) generic rest
    (ofExprs inner values ++ ofExpr? inner type ++ more, last)
  | .type _ name typeParams _ type _ :: rest =>
    let inner := inner.bind [name.name]
    let outer := if generic then outer else outer.bind [name.name]
    match typeParams with
    | none =>
      let (more, last) := ofSpecs inner outer generic rest
      (ofExpr inner type ++ more, last)
    | some (.mk _ params _) =>
      let inner := inner.bind (params.flatMap fun f => f.names.map Ident.name)
      let (found, _) := ofFields inner params
      let (more, last) := ofSpecs inner outer true rest
      (found ++ ofExpr inner type ++ more, last)

def ofGroup (s : Scope) : GroupDecl → List Mention × Scope
  | .mk _ _ _ _ specs _ => ofSpecs s s false specs

end

/-- The mentions in a function declaration. Type parameters of a receiver hide no package. -/
def ofFunction (s : Scope) (d : FuncDecl) : List Mention :=
  let receiver := match d.receiver with
    | some l => l.fields
    | none => []
  let inReceiver := (ofFields s receiver).1
  let typeFields := match d.type.typeParams with
    | some l => l.fields
    | none => []
  let s := s.bind (typeFields.flatMap fun f => f.names.map Ident.name)
  let inTypeParams := (ofFields s typeFields).1
  let (inType, inner) := ofFuncType s d.type
  let inner := inner.bind (receiver.flatMap fun f => f.names.map Ident.name)
  let inBody := match d.body with
    | some b => (ofBlock inner b).1
    | none => []
  inReceiver ++ inTypeParams ++ inType ++ inBody

end Mention

namespace File

/-- The names that a declaration declares at the top of its file, `init` functions and methods apart. -/
def declared : Decl → List Text
  | .group d => (Mention.ofGroup { names := [] } d).2.names
  | .function d =>
    let hidden := d.receiver.isSome || d.name.name == Text.ofString "init" || d.name.name == Scope.blank
    if hidden then [] else [d.name.name]

/-- The mentions in a file that neither a local nor a top declaration explains. -/
def mentions (f : File) : List Text :=
  let top := f.decls.flatMap declared
  let found := f.decls.flatMap fun d => match d with
    | .group d => (Mention.ofGroup { names := [] } d).1
    | .function d => Mention.ofFunction { names := [] } d
  (found.filter fun m => m.unseen || !top.contains m.name).map Mention.name

end File

end SystemLoops.Source
