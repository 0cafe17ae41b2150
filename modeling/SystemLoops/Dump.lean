import SystemLoops.Canonical
import SystemLoops.Format.Json
import SystemLoops.Format.Yaml.Write
import SystemLoops.Text.Spelling

namespace SystemLoops

inductive DumpFormat where
  | yaml
  | json
  | cbor
deriving Repr, DecidableEq, Inhabited

namespace DumpFormat

def named? (name : Text) : Option DumpFormat :=
  if name == Text.ofString "yaml" then some .yaml
  else if name == Text.ofString "json" then some .json
  else if name == Text.ofString "cbor" then some .cbor
  else none

def name : DumpFormat → String
  | .yaml => "yaml"
  | .json => "json"
  | .cbor => "cbor"

/-- The format that a user asks for, in any case. -/
def parse (name : Text) : Except Failure DumpFormat :=
  let lower := name.toLower
  match named? lower with
  | some f => .ok f
  | none =>
    if lower == Text.ofString "yml" then .ok .yaml
    else .error (.plain
      ("unknown dump format " ++ Text.quote name ++ " (want yaml, json or cbor)"))

end DumpFormat

/-- A readable value: texts, lists that may be absent, and records. -/
inductive View where
  | text (t : Text)
  | absent
  | list (items : List View)
  | record (fields : List (String × View))
deriving Repr, Inhabited

namespace View

open Format

mutual

def toJson : View → Json
  | .text t => .string t
  | .absent => .null
  | .list items => .array (itemsToJson items)
  | .record fields => .object (fieldsToJson fields)

def itemsToJson : List View → List Json
  | [] => []
  | v :: rest => v.toJson :: itemsToJson rest

def fieldsToJson : List (String × View) → List (Text × Json)
  | [] => []
  | (name, v) :: rest => (Text.ofString name, v.toJson) :: fieldsToJson rest

end

mutual

/-- The view as YAML; an absent list shows as an empty one. -/
def toYaml : View → Yaml.Tree
  | .text t => .text t
  | .absent => .list []
  | .list items => .list (itemsToYaml items)
  | .record fields => .record (fieldsToYaml fields)

def itemsToYaml : List View → List Yaml.Tree
  | [] => []
  | v :: rest => v.toYaml :: itemsToYaml rest

def fieldsToYaml : List (String × View) → List (String × Yaml.Tree)
  | [] => []
  | (name, v) :: rest => (name, v.toYaml) :: fieldsToYaml rest

end

/-- A field that is left out when its text is empty. -/
def textField? (name : String) (t : Text) : List (String × View) :=
  if t.isEmpty then [] else [(name, .text t)]

/-- A field that is left out when its list is empty. -/
def listField? (name : String) (items : List View) : List (String × View) :=
  if items.isEmpty then [] else [(name, .list items)]

def ofTexts? : Option (List Text) → View
  | none => .absent
  | some ts => .list (ts.map .text)

def ofTemplate (t : Template) : View :=
  .list (t.lines.map .text)

/-- The readable form of a parameter. -/
def ofParam (p : Param) : View :=
  .record [("type", .text p.type), ("name", .text p.name)]

def ofNode (n : Node) : View :=
  .record ([("key", .text n.key.render), ("signature", .text n.signature),
      ("params", match n.params with
        | none => .absent
        | some ps => .list (ps.map ofParam))]
    ++ listField? "exclusions" (n.excluded.map .text)
    ++ [("body", ofTemplate n.body)]
    ++ textField? "position" n.position.render)

/-- The readable form of a finding. -/
def ofDiagnostic (d : Diagnostic) : View :=
  .record ([("severity", .text d.severity.label)] ++ textField? "position" d.position.render
    ++ [("message", .text d.message)] ++ textField? "suggestion" d.suggestion)

/-- The readable form of an analysed method. -/
def ofAnalysis (a : Analysis) : View :=
  .record ([("system", .text a.system)]
    ++ textField? "package" a.package ++ textField? "receiver" a.receiver
    ++ textField? "position" a.position.render
    ++ [("digest", .text a.digest)]
    ++ listField? "imports" (a.imports.map fun i => .text i.render)
    ++ [("preamble", ofTemplate a.preamble), ("storage_types", ofTexts? a.storageTypes),
      ("signature_names", ofTexts? a.signatureNames),
      ("nodes", if a.nodes.isEmpty then .absent else .list (a.nodes.map ofNode))]
    ++ listField? "diagnostics" (a.diagnostics.map ofDiagnostic))

end View

namespace Analysis

def dump (methods : List Analysis) : DumpFormat → Text
  | .cbor => methods.flatMap canonicalBytes
  | .json => (Format.Json.array (methods.map fun a => (View.ofAnalysis a).toJson)).document
  | .yaml => Format.Yaml.document (methods.map fun a => (View.ofAnalysis a).toYaml)

def dumpNamed (methods : List Analysis) (format : Text) : Except Failure Text :=
  match DumpFormat.named? format with
  | some f => .ok (dump methods f)
  | none => .error (.plain ("unknown dump format " ++ Text.quote format))

end Analysis

end SystemLoops
