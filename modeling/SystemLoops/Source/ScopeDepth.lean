import SystemLoops.Source.Parse.File

/-!
How deeply the scopes of a file are nested. Function bodies share the scope of their parameters; a
conditional, a loop and a choice have a scope of their own around that of their blocks; the type
parameters of a declaration keep a scope open to the end of the declaration. Names are looked up only
in files whose scopes are not nested too deeply.
-/

namespace SystemLoops.Source

namespace ScopeDepth

mutual

def ofExpr : Expr → Nat
  | .mk _ _ shape => ofShape shape

def ofExpr? : Option Expr → Nat
  | none => 0
  | some x => ofExpr x

def ofExprs : List Expr → Nat
  | [] => 0
  | x :: rest => max (ofExpr x) (ofExprs rest)

def ofShape : ExprShape → Nat
  | .ident _ | .literal _ => 0
  | .function type body => max (ofFuncType type) (ofBlock body) + 1
  | .composite type _ elements _ => max (ofExpr? type) (ofExprs elements)
  | .paren x _ | .selector x _ | .star x | .unary _ x | .chanType _ _ x => ofExpr x
  | .index x _ indices _ => max (ofExpr x) (ofExprs indices)
  | .slice x _ low high top _ =>
    max (max (ofExpr x) (ofExpr? low)) (max (ofExpr? high) (ofExpr? top))
  | .typeAssert x _ type _ => max (ofExpr x) (ofExpr? type)
  | .call fn _ arguments _ _ => max (ofExpr fn) (ofExprs arguments)
  | .binary x _ _ y | .keyValue x _ y | .mapType x y => max (ofExpr x) (ofExpr y)
  | .ellipsis element => ofExpr? element
  | .arrayType length element => max (ofExpr? length) (ofExpr element)
  | .structType fields | .interfaceType fields => ofFieldList fields + 1
  | .funcType type => ofFuncType type + 1

def ofFields : List Field → Nat
  | [] => 0
  | .mk _ _ type _ _ :: rest => max (ofExpr type) (ofFields rest)

def ofFieldList : FieldList → Nat
  | .mk _ fields _ => ofFields fields

def ofFieldList? : Option FieldList → Nat
  | none => 0
  | some fields => ofFieldList fields

/-- The depth inside the scope of a function, its body apart. -/
def ofFuncType : FuncType → Nat
  | .mk _ _ typeParams params results =>
    max (ofFieldList? typeParams) (max (ofFieldList params) (ofFieldList? results))

/-- The depth among statements that share the scope around them. -/
def ofStatements : List Statement → Nat
  | [] => 0
  | s :: rest => max (ofStatement s) (ofStatements rest)

def ofBlock : Block → Nat
  | .mk _ statements _ => ofStatements statements

def ofStatement? : Option Statement → Nat
  | none => 0
  | some s => ofStatement s

def ofStatement : Statement → Nat
  | .mk _ _ shape => ofStatementShape shape

def ofStatementShape : StatementShape → Nat
  | .declare d => ofGroup d
  | .empty | .branch .. => 0
  | .labeled _ _ inner => ofStatement inner
  | .expr x | .incDec x _ _ | .launch _ x => ofExpr x
  | .send x _ y => max (ofExpr x) (ofExpr y)
  | .assign left _ tok right =>
    max (ofExprs right) (if tok == .define then 0 else ofExprs left)
  | .giveBack results => ofExprs results
  | .block b => ofBlock b + 1
  | .conditional init condition body otherwise =>
    max (max (ofStatement? init) (ofExpr condition)) (max (ofBlock body + 1) (ofStatement? otherwise)) + 1
  | .caseClause list _ body => max (ofExprs list) (ofStatements body + 1)
  | .choice init tag body =>
    let inner := if init.isSome && tag.isSome then 1 else 0
    max (ofStatement? init) (max (ofExpr? tag) (ofBlock body) + inner) + 1
  | .typeChoice init guarded body =>
    let outer := if init.isSome then 1 else 0
    max (ofStatement? init) (max (ofStatement guarded) (ofBlock body) + 1) + outer
  | .commClause comm _ body => max (ofStatement? comm) (ofStatements body) + 1
  | .select body => ofBlock body
  | .loop init condition post body =>
    max (max (ofStatement? init) (ofExpr? condition)) (max (ofStatement? post) (ofBlock body + 1)) + 1
  | .range key value _ _ x body =>
    max (max (ofExpr x) (ofExpr? key)) (max (ofExpr? value) (ofBlock body + 1)) + 1

/-- The depth of entries; type parameters of one entry stay open for those behind it. -/
def ofSpecs : List Spec → Nat
  | [] => 0
  | .imported .. :: rest => ofSpecs rest
  | .value _ _ type values _ :: rest => max (max (ofExprs values) (ofExpr? type)) (ofSpecs rest)
  | .type _ _ typeParams _ type _ :: rest =>
    match typeParams with
    | none => max (ofExpr type) (ofSpecs rest)
    | some params => max (max (ofFieldList params) (ofExpr type)) (ofSpecs rest) + 1

def ofGroup : GroupDecl → Nat
  | .mk _ _ _ _ specs _ => ofSpecs specs

end

/-- The depth of a declaration inside the scope of its file. -/
def ofDecl : Decl → Nat
  | .group d => ofGroup d
  | .function d =>
    let body := match d.body with
      | some b => ofBlock b
      | none => 0
    max (max (ofFieldList? d.receiver) (ofFuncType d.type)) body + 1

/-- The deepest nesting in which names are looked up; the scope of the file counts. -/
def limit : Nat := 1000

end ScopeDepth

/-- Whether the scopes of a file are nested too deeply. -/
def File.exceedsScopes (f : File) : Bool :=
  f.decls.any fun d => ScopeDepth.ofDecl d + 1 > ScopeDepth.limit

/-- Read a source text whose names are to be looked up. -/
def parseScoped? (name text : Text) : Option Parsed :=
  match parse? name text with
  | some p => if p.file.exceedsScopes then none else some p
  | none => none

end SystemLoops.Source
