import SystemLoops.Method
import SystemLoops.Text.Basic

namespace SystemLoops

/-- The nesting levels that are expanded: loops exist at depths below this. -/
def maxDepth : UInt64 := 6

/-- The name of an iteration within its method: how deep it is nested, and a running number. -/
structure Key where
  depth : UInt64
  id : UInt64
deriving Repr, DecidableEq, Inhabited

namespace Key

/-- The key as messages and dumps show it. -/
def render (k : Key) : Text :=
  "LAMBDA_DEPTH:" ++ Text.ofNat k.depth.toNat ++ ",ID:" ++ Text.ofNat k.id.toNat

/-- Whether a key names a direct child of another: one level deeper, wrapping around. -/
def isChildOf (child parent : Key) : Bool :=
  child.depth == parent.depth + 1

end Key

/-- One piece of a body. -/
inductive Segment where
  | text (source : Text)
  | hole (key : Key)
deriving Repr, DecidableEq, Inhabited

/-- A body as an ordered list of statements and holes. -/
abbrev Template := List Segment

namespace Segment

/-- The piece on one line; a hole shows as a comment that names its key. -/
def line : Segment → Text
  | .text source => source
  | .hole key => "//" ++ key.render

def hole? : Segment → Option Key
  | .text _ => none
  | .hole key => some key

end Segment

namespace Template

/-- The keys of the holes, in order. -/
def holes (t : Template) : List Key :=
  t.filterMap Segment.hole?

@[simp] theorem holes_nil : holes [] = [] := rfl

@[simp] theorem holes_text (source : Text) (rest : Template) :
    holes (.text source :: rest) = holes rest := rfl

@[simp] theorem holes_hole (key : Key) (rest : Template) :
    holes (.hole key :: rest) = key :: holes rest := rfl

/-- One line for every piece. -/
def lines (t : Template) : List Text :=
  t.map Segment.line

/-- The template as text, every piece followed by a line feed. -/
def render (t : Template) : Text :=
  t.flatMap fun s => s.line ++ [Text.newline]

end Template

/-- One iteration. Absent lists are told from empty ones by the canonical form. -/
structure Node where
  key : Key
  params : Option (List Param) := none
  exclusions : Option (List Text) := none
  body : Template := []
  signature : Text := []
  position : Position := {}
deriving Repr, DecidableEq, Inhabited

namespace Node

/-- The components that the loop binds. -/
def bindings (n : Node) : List Param :=
  n.params.getD []

/-- The component types of the loop, in order. -/
def types (n : Node) : List Text :=
  n.bindings.map Param.type

/-- The component types that the loop leaves out. -/
def excluded (n : Node) : List Text :=
  n.exclusions.getD []

end Node

end SystemLoops
