import SystemLoops.Text.Basic
import SystemLoops.Text.Quote

namespace SystemLoops

/-- Where a statement stands. A line of zero or below means that only the file is known. -/
structure Position where
  file : Text := []
  line : Int := 0
  column : Int := 0
deriving Repr, DecidableEq, Inhabited

namespace Position

/-- Whether the position points at a real line. -/
def isValid (p : Position) : Bool :=
  0 < p.line

/-- The position as messages show it. -/
def render (p : Position) : Text :=
  if !p.isValid then p.file
  else
    let place := Text.ofInt p.line ++ ":" ++ Text.ofInt p.column
    if p.file.isEmpty then place else p.file ++ ":" ++ place

end Position

/-- One import of the file that holds the method; an empty name means that none was written. -/
structure Import where
  name : Text := []
  path : Text
deriving Repr, DecidableEq, Inhabited

/-- One called member of a chain with its explicit type arguments. -/
structure Member where
  name : Text
  typeArgs : List Text := []
deriving Repr, DecidableEq, Inhabited

/-- A parameter of a function literal: a component type, without its pointer mark, and a name. -/
structure Param where
  type : Text
  name : Text
deriving Repr, DecidableEq, Inhabited

/-- A statement of a method or of a function literal. -/
inductive Stmt where
  /-- A statement that is no member call. -/
  | text (source : Text) (position : Position)
  /-- A chain of member calls, the outermost call last, without a function literal. -/
  | call (source : Text) (position : Position) (chain : List Member)
  /-- A chain whose outermost call takes a function literal. -/
  | callWith (source : Text) (position : Position) (chain : List Member)
      (params : Option (List Param)) (hasBody : Bool) (body : List Stmt)
deriving Repr, Inhabited

/-- A function literal argument. Absent parameters are told from an empty list of them. -/
structure Lambda where
  params : Option (List Param)
  body : List Stmt
  hasBody : Bool
deriving Repr, Inhabited

/-- An update method with what its generated unit needs to compile next to it. -/
structure Method where
  system : Text
  package : Text := []
  receiver : Text := []
  imports : List Import := []
  body : List Stmt := []
  position : Position := {}
deriving Repr, Inhabited

namespace Import

/-- The import as it is written in a declaration. -/
def render (i : Import) : Text :=
  if i.name.isEmpty then Text.quote i.path else i.name ++ " " ++ Text.quote i.path

end Import

namespace Member

/-- The call of the member without its arguments. -/
def render (m : Member) : Text :=
  if m.typeArgs.isEmpty then m.name ++ "()"
  else m.name ++ "[" ++ Text.join ", " m.typeArgs ++ "]()"

end Member

namespace Param

/-- The parameter as it is declared. -/
def render (p : Param) : Text :=
  p.name ++ " *" ++ p.type

end Param

namespace Stmt

def source : Stmt → Text
  | .text s _ | .call s _ _ | .callWith s _ _ _ _ _ => s

/-- Where a statement stands. -/
def position : Stmt → Position
  | .text _ p | .call _ p _ | .callWith _ p _ _ _ _ => p

/-- The called members, the outermost last; none for a statement that is no call. -/
def chain : Stmt → List Member
  | .text _ _ => []
  | .call _ _ c | .callWith _ _ c _ _ _ => c

/-- The function literal that the outermost call takes. -/
def lambda? : Stmt → Option Lambda
  | .callWith _ _ _ params hasBody body => some { params, body, hasBody }
  | _ => none

/-- The member that is called last. -/
def outermost? (s : Stmt) : Option Member :=
  s.chain.getLast?

end Stmt

end SystemLoops
