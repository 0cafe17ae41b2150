import SystemLoops.Source.Tree

namespace SystemLoops.Source

/-- A declared type. -/
structure TypeEntry where
  name : Text
  type : Expr

namespace TypeEntry

mutual

def inExpr : Expr → List TypeEntry
  | .mk _ _ shape => inShape shape

def inExpr? : Option Expr → List TypeEntry
  | none => []
  | some x => inExpr x

def inExprs : List Expr → List TypeEntry
  | [] => []
  | x :: rest => inExpr x ++ inExprs rest

def inShape : ExprShape → List TypeEntry
  | .ident _ | .literal _ => []
  | .function type body => inFuncType type ++ inBlock body
  | .composite type _ elements _ => inExpr? type ++ inExprs elements
  | .paren x _ | .selector x _ | .star x | .unary _ x | .chanType _ _ x => inExpr x
  | .index x _ indices _ => inExpr x ++ inExprs indices
  | .slice x _ low high max _ => inExpr x ++ inExpr? low ++ inExpr? high ++ inExpr? max
  | .typeAssert x _ type _ => inExpr x ++ inExpr? type
  | .call fn _ arguments _ _ => inExpr fn ++ inExprs arguments
  | .binary x _ _ y | .keyValue x _ y | .mapType x y => inExpr x ++ inExpr y
  | .ellipsis element => inExpr? element
  | .arrayType length element => inExpr? length ++ inExpr element
  | .structType fields | .interfaceType fields => inFieldList fields
  | .funcType type => inFuncType type

def inFields : List Field → List TypeEntry
  | [] => []
  | .mk _ _ type _ _ :: rest => inExpr type ++ inFields rest

def inFieldList : FieldList → List TypeEntry
  | .mk _ fields _ => inFields fields

def inFieldList? : Option FieldList → List TypeEntry
  | none => []
  | some fields => inFieldList fields

def inFuncType : FuncType → List TypeEntry
  | .mk _ _ typeParams params results =>
    inFieldList? typeParams ++ inFieldList params ++ inFieldList? results

def inBlock : Block → List TypeEntry
  | .mk _ statements _ => inStatements statements

def inStatements : List Statement → List TypeEntry
  | [] => []
  | s :: rest => inStatement s ++ inStatements rest

def inStatement? : Option Statement → List TypeEntry
  | none => []
  | some s => inStatement s

def inStatement : Statement → List TypeEntry
  | .mk _ _ shape => inStatementShape shape

def inStatementShape : StatementShape → List TypeEntry
  | .declare d => inGroup d
  | .empty | .branch .. => []
  | .labeled _ _ inner => inStatement inner
  | .expr x | .incDec x _ _ | .launch _ x => inExpr x
  | .send x _ y => inExpr x ++ inExpr y
  | .assign left _ _ right => inExprs left ++ inExprs right
  | .giveBack results => inExprs results
  | .block b | .select b => inBlock b
  | .conditional init condition body otherwise =>
    inStatement? init ++ inExpr condition ++ inBlock body ++ inStatement? otherwise
  | .caseClause list _ body => inExprs list ++ inStatements body
  | .choice init tag body => inStatement? init ++ inExpr? tag ++ inBlock body
  | .typeChoice init guarded body => inStatement? init ++ inStatement guarded ++ inBlock body
  | .commClause comm _ body => inStatement? comm ++ inStatements body
  | .loop init condition post body =>
    inStatement? init ++ inExpr? condition ++ inStatement? post ++ inBlock body
  | .range key value _ _ x body => inExpr? key ++ inExpr? value ++ inExpr x ++ inBlock body

def inSpecs : List Spec → List TypeEntry
  | [] => []
  | .imported .. :: rest => inSpecs rest
  | .value _ _ type values _ :: rest => inExpr? type ++ inExprs values ++ inSpecs rest
  | .type _ name _ _ type _ :: rest => ⟨name.name, type⟩ :: inSpecs rest

def inGroup : GroupDecl → List TypeEntry
  | .mk _ _ _ _ specs _ => inSpecs specs

end

/-- The types that a declaration of a file declares. -/
def inDecl : Decl → List TypeEntry
  | .group d => inGroup d
  | .function d =>
    inFieldList? d.receiver ++ inFuncType d.type ++
      match d.body with
      | some b => inBlock b
      | none => []

end TypeEntry

def File.types (f : File) : List TypeEntry :=
  f.decls.flatMap TypeEntry.inDecl

end SystemLoops.Source
