import SystemLoops.Source.Token

namespace SystemLoops.Source

/-- A place in a source text: one more than the offset, and zero for no place at all. -/
abbrev Pos := Nat

structure Comment where
  pos : Pos
  text : Text
deriving Repr, DecidableEq, Inhabited

namespace Comment

def finish (c : Comment) : Pos :=
  c.pos + c.text.length

def isLine (c : Comment) : Bool :=
  c.text[1]? == some 0x2F

end Comment

/-- Comments with nothing but line ends between them. -/
abbrev CommentGroup := List Comment

namespace CommentGroup

def start (g : CommentGroup) : Pos :=
  match g.head? with
  | some c => c.pos
  | none => 0

def finish (g : CommentGroup) : Pos :=
  match g.getLast? with
  | some c => c.finish
  | none => 0

end CommentGroup

/-- A name. -/
structure Ident where
  pos : Pos
  name : Text
deriving Repr, DecidableEq, Inhabited

/-- Where a name ends. -/
def Ident.finish (i : Ident) : Pos :=
  i.pos + i.name.length

/-- A literal as it is written. -/
structure Literal where
  pos : Pos
  finish : Pos
  kind : Tok
  value : Text
deriving Repr, DecidableEq, Inhabited

/-- The directions of a channel. -/
inductive Direction where
  | both
  | send
  | receive
deriving Repr, DecidableEq, Inhabited

mutual

/-- An expression or a type. -/
inductive Expr where
  | mk (start finish : Pos) (shape : ExprShape)

/-- The kinds of expressions and types. -/
inductive ExprShape where
  | ident (name : Text)
  | literal (l : Literal)
  | function (type : FuncType) (body : Block)
  | composite (type : Option Expr) (lbrace : Pos) (elements : List Expr) (rbrace : Pos)
  | paren (inner : Expr) (rparen : Pos)
  | selector (x : Expr) (sel : Ident)
  | index (x : Expr) (lbrack : Pos) (indices : List Expr) (rbrack : Pos)
  | slice (x : Expr) (lbrack : Pos) (low high max : Option Expr) (rbrack : Pos)
  | typeAssert (x : Expr) (lparen : Pos) (type : Option Expr) (rparen : Pos)
  | call (fn : Expr) (lparen : Pos) (arguments : List Expr) (ellipsis rparen : Pos)
  | star (x : Expr)
  | unary (op : Tok) (x : Expr)
  | binary (x : Expr) (opPos : Pos) (op : Tok) (y : Expr)
  | keyValue (key : Expr) (colon : Pos) (value : Expr)
  | ellipsis (element : Option Expr)
  | arrayType (length : Option Expr) (element : Expr)
  | structType (fields : FieldList)
  | funcType (type : FuncType)
  | interfaceType (methods : FieldList)
  | mapType (key value : Expr)
  | chanType (arrow : Pos) (direction : Direction) (value : Expr)

/-- Names with a type: parameters, struct fields, or methods of an interface. -/
inductive Field where
  | mk (doc : Option CommentGroup) (names : List Ident) (type : Expr) (tag : Option Literal)
      (comment : Option CommentGroup)

/-- Fields in parentheses, brackets or braces. -/
inductive FieldList where
  | mk (opening : Pos) (fields : List Field) (closing : Pos)

/-- The type of a function. -/
inductive FuncType where
  | mk (start finish : Pos) (typeParams : Option FieldList) (params : FieldList)
      (results : Option FieldList)

/-- Statements in braces. -/
inductive Block where
  | mk (lbrace : Pos) (statements : List Statement) (rbrace : Pos)

inductive Statement where
  | mk (start finish : Pos) (shape : StatementShape)

/-- The kinds of statements. -/
inductive StatementShape where
  | declare (d : GroupDecl)
  | empty
  | labeled (label : Ident) (colon : Pos) (inner : Statement)
  | expr (x : Expr)
  | send (channel : Expr) (arrow : Pos) (value : Expr)
  | incDec (x : Expr) (tokPos : Pos) (tok : Tok)
  | assign (left : List Expr) (tokPos : Pos) (tok : Tok) (right : List Expr)
  | launch (tok : Tok) (call : Expr)
  | giveBack (results : List Expr)
  | branch (tok : Tok) (label : Option Ident)
  | block (b : Block)
  | conditional (init : Option Statement) (condition : Expr) (body : Block)
      (otherwise : Option Statement)
  | caseClause (list : List Expr) (colon : Pos) (body : List Statement)
  | choice (init : Option Statement) (tag : Option Expr) (body : Block)
  | typeChoice (init : Option Statement) (guarded : Statement) (body : Block)
  | commClause (comm : Option Statement) (colon : Pos) (body : List Statement)
  | select (body : Block)
  | loop (init : Option Statement) (condition : Option Expr) (post : Option Statement)
      (body : Block)
  | range (key value : Option Expr) (tokPos : Pos) (tok : Tok) (x : Expr) (body : Block)

/-- One entry of a declaration. -/
inductive Spec where
  | imported (doc : Option CommentGroup) (name : Option Ident) (path : Literal)
      (comment : Option CommentGroup) (finish : Pos)
  | value (doc : Option CommentGroup) (names : List Ident) (type : Option Expr)
      (values : List Expr) (comment : Option CommentGroup)
  | type (doc : Option CommentGroup) (name : Ident) (typeParams : Option FieldList)
      (assign : Pos) (type : Expr) (comment : Option CommentGroup)

/-- A declaration other than that of a function. -/
inductive GroupDecl where
  | mk (doc : Option CommentGroup) (tokPos : Pos) (tok : Tok) (lparen : Pos) (specs : List Spec)
      (rparen : Pos)

end

instance : Inhabited Expr := ⟨.mk 0 0 (.ident [])⟩
instance : Inhabited Statement := ⟨.mk 0 0 .empty⟩
instance : Inhabited Block := ⟨.mk 0 [] 0⟩
instance : Inhabited FieldList := ⟨.mk 0 [] 0⟩
instance : Inhabited FuncType := ⟨.mk 0 0 none default none⟩

namespace Expr

def start : Expr → Pos
  | .mk s _ _ => s

/-- Where an expression ends. -/
def finish : Expr → Pos
  | .mk _ f _ => f

/-- What kind of expression it is. -/
def shape : Expr → ExprShape
  | .mk _ _ s => s

/-- The expression that is a name. -/
def ofIdent (i : Ident) : Expr :=
  .mk i.pos i.finish (.ident i.name)

def ofLiteral (l : Literal) : Expr :=
  .mk l.pos l.finish (.literal l)

def ident? : Expr → Option Ident
  | .mk s _ (.ident name) => some ⟨s, name⟩
  | _ => none

/-- An expression without the parentheses around it. -/
def unparen : Expr → Expr
  | .mk _ _ (.paren inner _) => inner.unparen
  | x => x

/-- Whether an expression can only be a type element, not a value. -/
def isTypeElement : Expr → Bool
  | .mk _ _ shape => match shape with
    | .arrayType .. | .structType _ | .funcType _ | .interfaceType _ | .mapType .. | .chanType .. =>
      true
    | .binary x _ _ y => x.isTypeElement || y.isTypeElement
    | .unary op _ => op == .tilde
    | .paren inner _ => inner.isTypeElement
    | _ => false

end Expr

namespace Field

def doc : Field → Option CommentGroup
  | .mk d _ _ _ _ => d

def names : Field → List Ident
  | .mk _ n _ _ _ => n

def type : Field → Expr
  | .mk _ _ t _ _ => t

def tag : Field → Option Literal
  | .mk _ _ _ t _ => t

def comment : Field → Option CommentGroup
  | .mk _ _ _ _ c => c

def start (f : Field) : Pos :=
  match f.names with
  | first :: _ => first.pos
  | [] => f.type.start

def finish (f : Field) : Pos :=
  match f.tag with
  | some t => t.finish
  | none => f.type.finish

end Field

namespace FieldList

def opening : FieldList → Pos
  | .mk o _ _ => o

def fields : FieldList → List Field
  | .mk _ f _ => f

def closing : FieldList → Pos
  | .mk _ _ c => c

def finish (l : FieldList) : Pos :=
  if l.closing != 0 then l.closing + 1
  else match l.fields.getLast? with
    | some f => f.finish
    | none => 0

end FieldList

namespace FuncType

def start : FuncType → Pos
  | .mk s _ _ _ _ => s

def finish : FuncType → Pos
  | .mk _ f _ _ _ => f

def typeParams : FuncType → Option FieldList
  | .mk _ _ t _ _ => t

def params : FuncType → FieldList
  | .mk _ _ _ p _ => p

def results : FuncType → Option FieldList
  | .mk _ _ _ _ r => r

end FuncType

namespace Block

def lbrace : Block → Pos
  | .mk l _ _ => l

def statements : Block → List Statement
  | .mk _ s _ => s

def rbrace : Block → Pos
  | .mk _ _ r => r

def finish (b : Block) : Pos :=
  b.rbrace + 1

end Block

namespace Statement

def start : Statement → Pos
  | .mk s _ _ => s

def finish : Statement → Pos
  | .mk _ f _ => f

def shape : Statement → StatementShape
  | .mk _ _ s => s

def isEmpty : Statement → Bool
  | .mk _ _ .empty => true
  | _ => false

def labels : Statement → Nat
  | .mk _ _ (.labeled _ _ inner) => inner.labels + 1
  | _ => 0

end Statement

namespace Spec

def start : Spec → Pos
  | .imported _ name path _ _ => match name with
    | some n => n.pos
    | none => path.pos
  | .value _ names _ _ _ => match names.head? with
    | some n => n.pos
    | none => 0
  | .type _ name _ _ _ _ => name.pos

/-- Where an entry ends. -/
def finish : Spec → Pos
  | .imported _ _ path _ finish => if finish != 0 then finish else path.finish
  | .value _ names typed values _ =>
    match values.getLast?, typed, names.getLast? with
    | some v, _, _ => v.finish
    | none, some t, _ => t.finish
    | none, none, some n => n.finish
    | none, none, none => 0
  | .type _ _ _ _ defined _ => defined.finish

end Spec

namespace GroupDecl

def doc : GroupDecl → Option CommentGroup
  | .mk d _ _ _ _ _ => d

def tokPos : GroupDecl → Pos
  | .mk _ p _ _ _ _ => p

def tok : GroupDecl → Tok
  | .mk _ _ t _ _ _ => t

def lparen : GroupDecl → Pos
  | .mk _ _ _ l _ _ => l

def specs : GroupDecl → List Spec
  | .mk _ _ _ _ s _ => s

def rparen : GroupDecl → Pos
  | .mk _ _ _ _ _ r => r

/-- The declaration with other entries. -/
def withSpecs (d : GroupDecl) (specs : List Spec) : GroupDecl :=
  .mk d.doc d.tokPos d.tok d.lparen specs d.rparen

/-- Where a declaration ends. -/
def finish (d : GroupDecl) : Pos :=
  if d.rparen != 0 then d.rparen + 1
  else match d.specs.head? with
    | some s => s.finish
    | none => 0

end GroupDecl

/-- The declaration of a function or method. -/
structure FuncDecl where
  doc : Option CommentGroup
  receiver : Option FieldList
  name : Ident
  type : FuncType
  body : Option Block
deriving Inhabited

/-- A declaration of a file. -/
inductive Decl where
  | group (d : GroupDecl)
  | function (d : FuncDecl)

namespace Decl

def doc : Decl → Option CommentGroup
  | .group d => d.doc
  | .function d => d.doc

def start : Decl → Pos
  | .group d => d.tokPos
  | .function d => d.type.start

/-- Where a declaration ends. -/
def finish : Decl → Pos
  | .group d => d.finish
  | .function d => match d.body with
    | some b => b.finish
    | none => d.type.finish

/-- The keyword of a declaration. -/
def tok : Decl → Tok
  | .group d => d.tok
  | .function _ => .kwFunc

end Decl

/-- A source file. -/
structure File where
  package : Pos
  name : Ident
  decls : List Decl
  comments : List CommentGroup

namespace File

/-- The entries of the import declarations. -/
def imports (f : File) : List Spec :=
  f.decls.flatMap fun d => match d with
    | .group g => if g.tok == .kwImport then g.specs else []
    | .function _ => []

end File

end SystemLoops.Source
