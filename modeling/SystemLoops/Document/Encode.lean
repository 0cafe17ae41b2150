import SystemLoops.Format.Json
import SystemLoops.Method

namespace SystemLoops.Document

open Format

/-- A field that is left out when its text is empty. -/
def textField? (name : String) (t : Text) : List (Text × Json) :=
  if t.isEmpty then [] else [(Text.ofString name, .string t)]

/-- A field that is left out when its number is zero. -/
def intField? (name : String) (n : Int) : List (Text × Json) :=
  if n = 0 then [] else [(Text.ofString name, .ofInt n)]

/-- A field that is left out when its list is empty. -/
def listField? (name : String) (items : List Json) : List (Text × Json) :=
  if items.isEmpty then [] else [(Text.ofString name, .array items)]

def field (name : String) (v : Json) : List (Text × Json) :=
  [(Text.ofString name, v)]

def ofPosition (p : Position) : Json :=
  .object (textField? "file" p.file ++ intField? "line" p.line ++ intField? "column" p.column)

def ofImport (i : Import) : Json :=
  .object (textField? "name" i.name ++ field "path" (.string i.path))

def ofMember (m : Member) : Json :=
  .object (field "name" (.string m.name) ++ listField? "type_args" (m.typeArgs.map .string))

def ofParam (p : Param) : Json :=
  .object (field "type" (.string p.type) ++ field "name" (.string p.name))

def ofParams : Option (List Param) → Json
  | none => .null
  | some ps => .array (ps.map ofParam)

mutual

/-- The description of a statement. -/
def ofStmt : Stmt → Json
  | .text source position =>
    .object (field "kind" (.string "text") ++ field "src" (.string source)
      ++ field "pos" (ofPosition position))
  | .call source position chain =>
    .object (field "kind" (.string "call") ++ field "src" (.string source)
      ++ field "pos" (ofPosition position) ++ listField? "chain" (chain.map ofMember))
  | .callWith source position chain params hasBody body =>
    .object (field "kind" (.string "call") ++ field "src" (.string source)
      ++ field "pos" (ofPosition position) ++ listField? "chain" (chain.map ofMember)
      ++ field "lambda" (.object (field "params" (ofParams params)
        ++ listField? "body" (ofStmts body) ++ field "has_body" (.bool hasBody))))

/-- The descriptions of several statements. -/
def ofStmts : List Stmt → List Json
  | [] => []
  | st :: rest => ofStmt st :: ofStmts rest

end

def ofMethod (m : Method) : Json :=
  .object (field "system" (.string m.system) ++ textField? "package" m.package
    ++ textField? "receiver" m.receiver ++ listField? "imports" (m.imports.map ofImport)
    ++ field "body" (if m.body.isEmpty then .null else .array (ofStmts m.body))
    ++ field "pos" (ofPosition m.position))

def encode (methods : List Method) : Text :=
  (Json.object (field "methods" (.array (methods.map ofMethod)))).document

end SystemLoops.Document
