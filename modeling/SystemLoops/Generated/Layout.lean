import SystemLoops.Generated.Assembly

namespace SystemLoops.Layout

/-- The comment at the top of a unit. -/
def headerTemplate : String :=
  "\x7b\x7bdefine \"header\"\x7d\x7d// Code generated by ecsgen. DO NOT EDIT.\n"
    ++ "\x7b\x7b- if .Source\x7d\x7d\n"
    ++ "// source: \x7b\x7b.Source\x7d\x7d\n"
    ++ "\x7b\x7b- end\x7d\x7d\n"
    ++ "\x7b\x7b- if .Digest\x7d\x7d\n"
    ++ "// ecsgen:digest \x7b\x7b.Digest\x7d\x7d\n"
    ++ "\x7b\x7b- end\x7d\x7d\n"
    ++ "\x7b\x7bend\x7d\x7d"

def packageTemplate : String :=
  "\x7b\x7bdefine \"package\"\x7d\x7dpackage \x7b\x7b.PackageName\x7d\x7d\x7b\x7bend\x7d\x7d"

def importsTemplate : String :=
  "\x7b\x7bdefine \"imports\"\x7d\x7d\n"
    ++ "import (\n"
    ++ "\x7b\x7b- range .Imports\x7d\x7d\n"
    ++ "\t\x7b\x7b.\x7d\x7d\n"
    ++ "\x7b\x7b- end\x7d\x7d\n"
    ++ ")\n"
    ++ "\x7b\x7bend\x7d\x7d"

/-- The type that holds storage handles and queries. -/
def stateTemplate : String :=
  "\x7b\x7bdefine \"state\"\x7d\x7d\n"
    ++ "// \x7b\x7b.StateType\x7d\x7d holds the storage handles and queries of \x7b\x7b.System\x7d\x7d.\n"
    ++ "// \x7b\x7b.System\x7d\x7d embeds it.\n"
    ++ "type \x7b\x7b.StateType\x7d\x7d struct \x7b\n"
    ++ "\x7b\x7b- range .Pools\x7d\x7d\n"
    ++ "\t\x7b\x7b.Field\x7d\x7d *\x7b\x7b$.Runtime\x7d\x7d.Pool[\x7b\x7b.Type\x7d\x7d]\n"
    ++ "\x7b\x7b- end\x7d\x7d\n"
    ++ "\x7b\x7b- range .Queries\x7d\x7d\n"
    ++ "\t\x7b\x7b.Field\x7d\x7d *\x7b\x7b$.Runtime\x7d\x7d.Query\n"
    ++ "\x7b\x7b- end\x7d\x7d\n"
    ++ "\x7d\n"
    ++ "\x7b\x7bend\x7d\x7d"

/-- The method that resolves them. -/
def initTemplate : String :=
  "\x7b\x7bdefine \"init\"\x7d\x7d\n"
    ++ "// OnInit resolves the storage handles and queries used by UpdateGenerated.\n"
    ++ "func (\x7b\x7b.Recv\x7d\x7d *\x7b\x7b.System\x7d\x7d) OnInit(world *\x7b\x7b.Runtime\x7d\x7d.World) \x7b\n"
    ++ "\x7b\x7b- range .Pools\x7d\x7d\n"
    ++ "\t\x7b\x7b$.Field .Field\x7d\x7d = \x7b\x7b.Init\x7d\x7d\n"
    ++ "\x7b\x7b- end\x7d\x7d\n"
    ++ "\x7b\x7b- range .Queries\x7d\x7d\n"
    ++ "\t\x7b\x7b$.Field .Field\x7d\x7d = \x7b\x7b.Init\x7d\x7d\n"
    ++ "\x7b\x7b- end\x7d\x7d\n"
    ++ "\x7d\n"
    ++ "\x7b\x7bend\x7d\x7d"

/-- The expanded update method. -/
def updateTemplate : String :=
  "\x7b\x7bdefine \"update\"\x7d\x7d\n"
    ++ "// UpdateGenerated is Update with every \x7b\x7b.Each\x7d\x7d call expanded into loops.\n"
    ++ "func (\x7b\x7b.Recv\x7d\x7d *\x7b\x7b.System\x7d\x7d) UpdateGenerated() \x7b\n"
    ++ "\x7b\x7b- if .Body\x7d\x7d\n"
    ++ "\x7b\x7b.Body\x7d\x7d\n"
    ++ "\x7b\x7b- end\x7d\x7d\n"
    ++ "\x7d\n"
    ++ "\n"
    ++ "func (\x7b\x7b.Recv\x7d\x7d *\x7b\x7b.System\x7d\x7d) UpdateN() \x7b\n"
    ++ "\t\x7b\x7b.Recv\x7d\x7d.UpdateGenerated()\n"
    ++ "\x7d\n"
    ++ "\x7b\x7bend\x7d\x7d"

/-- All parts in order. -/
def masterTemplate : String :=
  "\x7b\x7bdefine \"main\"\x7d\x7d\x7b\x7btemplate \"header\" .\x7d\x7d\n"
    ++ "\x7b\x7btemplate \"package\" .\x7d\x7d\n"
    ++ "\x7b\x7btemplate \"imports\" .\x7d\x7d\x7b\x7btemplate \"state\" .\x7d\x7d\x7b\x7btemplate \"init\" .\x7d\x7d\x7b\x7btemplate \"update\" .\x7d\x7d\x7b\x7bend\x7d\x7d"

/-- The parts of a unit by name, in order. -/
def parts : List (String × String) :=
  [("header", headerTemplate), ("package", packageTemplate), ("imports", importsTemplate),
   ("state", stateTemplate), ("init", initTemplate), ("update", updateTemplate)]

def template? (name : Text) : Option String :=
  (parts.find? fun (part, _) => Text.ofString part == name).map Prod.snd

/-- The templates of all parts, and the one that puts them together. -/
def allTemplates : String :=
  "\n".intercalate (parts.map Prod.snd ++ [masterTemplate])

/-- A line with a tab in front, after a line feed. -/
private def tabbed (t : Text) : Text :=
  "\n\t" ++ t

private def header (a : Assembly) : Text :=
  let source : Text := if a.source.isEmpty then [] else "\n// source: " ++ a.source
  let digest : Text := if a.digest.isEmpty then [] else "\n// ecsgen:digest " ++ a.digest
  "// Code generated by ecsgen. DO NOT EDIT." ++ source ++ digest ++ "\n"

private def imports (a : Assembly) : Text :=
  "\nimport (" ++ a.imports.flatMap tabbed ++ "\n)\n"

private def state (a : Assembly) : Text :=
  "\n// " ++ a.stateType ++ " holds the storage handles and queries of " ++ a.system ++ ".\n// "
    ++ a.system ++ " embeds it.\ntype " ++ a.stateType ++ " struct \x7b"
    ++ a.pools.flatMap (fun p =>
      tabbed (p.field ++ " *" ++ a.runtime ++ ".Pool[" ++ p.type ++ "]"))
    ++ a.queries.flatMap (fun q => tabbed (q.field ++ " *" ++ a.runtime ++ ".Query"))
    ++ "\n\x7d\n"

private def init (a : Assembly) : Text :=
  "\n// OnInit resolves the storage handles and queries used by UpdateGenerated.\nfunc ("
    ++ a.receiver ++ " *" ++ a.system ++ ") OnInit(world *" ++ a.runtime ++ ".World) \x7b"
    ++ a.pools.flatMap (fun p => tabbed (a.qualified p.field ++ " = " ++ p.init))
    ++ a.queries.flatMap (fun q => tabbed (a.qualified q.field ++ " = " ++ q.init))
    ++ "\n\x7d\n"

private def update (a : Assembly) : Text :=
  let body : Text := if a.body.isEmpty then [] else "\n" ++ a.body
  "\n// UpdateGenerated is Update with every " ++ a.each
    ++ " call expanded into loops.\nfunc (" ++ a.receiver ++ " *" ++ a.system
    ++ ") UpdateGenerated() \x7b" ++ body ++ "\n\x7d\n\nfunc (" ++ a.receiver ++ " *"
    ++ a.system ++ ") UpdateN() \x7b\n\t" ++ a.receiver ++ ".UpdateGenerated()\n\x7d\n"

/-- The text of a unit, not yet formatted. -/
def render (a : Assembly) : Text :=
  header a ++ "\npackage " ++ a.package ++ "\n" ++ imports a ++ state a ++ init a ++ update a

end SystemLoops.Layout
