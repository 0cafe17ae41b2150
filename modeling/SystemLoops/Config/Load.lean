import SystemLoops.Config.Decode
import SystemLoops.Document
import SystemLoops.Format.Dotenv
import SystemLoops.Format.Toml.Read
import SystemLoops.Format.Yaml.Read

namespace SystemLoops

open Format

namespace Format.Value

mutual

/-- The value of a JSON value. All numbers are floating and have to be in range. -/
def ofJson? : Json → Option Value
  | .null => some .null
  | .bool b => some (.bool b)
  | .number literal => (Double.ofDecimal (Decimal.ofNumeral literal)).map .float
  | .string t => some (.text t)
  | .array items => (ofItems? items).map .list
  | .object fields => (ofFields? fields).map .map

/-- The values of several JSON values. -/
def ofItems? : List Json → Option (List Value)
  | [] => some []
  | v :: rest => do
    let v ← ofJson? v
    return v :: (← ofItems? rest)

/-- The entries of an object; the last field of a name counts. -/
def ofFields? : List (Text × Json) → Option (List (Text × Value))
  | [] => some []
  | (key, v) :: rest => do
    let v ← ofJson? v
    let later ← ofFields? rest
    return if (later.lookup key).isSome then later else (key, v) :: later

end

mutual

/-- The value with the keys of all maps in lower case. -/
def lowerKeys : Value → Value
  | .list items => .list (lowerKeysIn items)
  | .map entries => .map (lowerKeysOf entries)
  | v => v

/-- Several values with their keys in lower case. -/
def lowerKeysIn : List Value → List Value
  | [] => []
  | v :: rest => v.lowerKeys :: lowerKeysIn rest

/-- The entries of a map with their keys in lower case. -/
def lowerKeysOf : List (Text × Value) → List (Text × Value)
  | [] => []
  | (key, v) :: rest => (Text.toLower key, v.lowerKeys) :: lowerKeysOf rest

end

end Format.Value

/-- Why a configuration cannot be loaded. -/
inductive ConfigProblem where
  /-- The file cannot be read. -/
  | unreadable (cause : Failure)
  /-- The extension of the file is unknown. -/
  | unsupported (extension : Text)
  /-- The text of the file has the wrong form. -/
  | malformed
  /-- A value is of the wrong kind. -/
  | wrongKind
  /-- The values cannot be used. -/
  | invalid (cause : Failure)
deriving Repr, Inhabited

namespace ConfigProblem

def failure : ConfigProblem → Failure
  | .unreadable cause => .around "read config: " cause []
  | .unsupported ext => .plain ("read config: Unsupported Config Type " ++ Text.quote ext)
  | .malformed => .plain "read config: While parsing config"
  | .wrongKind => .plain "decode config"
  | .invalid cause => cause

end ConfigProblem

namespace Config

def flags : List Flag :=
  [{ name := "config", letter := some 'c' }, { name := "input-json" },
   { name := "out", letter := some 'o' }, { name := "no-color", kind := .bool }, { name := "each" },
   { name := "without" }, { name := "query-prefix" }, { name := "pool-prefix" },
   { name := "runtime-import" }, { name := "output-suffix" },
   { name := "jobs", letter := some 'j', kind := .int }, { name := "format", kind := .bool },
   { name := "strict", kind := .bool }, { name := "log-level" }, { name := "log-file" }]

def extensions : List String :=
  ["json", "toml", "yaml", "yml", "properties", "props", "prop", "hcl", "tfvars", "dotenv", "env", "ini"]

inductive FileFormat where
  | json
  | toml
  | yaml
  /-- Variables of the environment. -/
  | variables
deriving Repr, DecidableEq, Inhabited

/-- What follows the last point in the last element of a path. -/
def extension (path : Text) : Text :=
  let name := Text.afterLast 0x2F path
  if name.contains 0x2E then Text.afterLast 0x2E name else []

/-- The entries of a JSON text, which has to be an object or null. -/
def jsonEntries? (t : Text) : Option (List (Text × Value)) :=
  match Document.parse? t with
  | some (.object fields) => Value.ofFields? fields
  | some .null => some []
  | _ => none

/-- The format of files with an extension, if it is read. -/
def FileFormat.ofExtension? (ext : Text) : Option FileFormat :=
  let isOneOf := fun names : List String => names.any fun name => Text.ofString name == ext
  if isOneOf ["json"] then some .json
  else if isOneOf ["toml"] then some .toml
  else if isOneOf ["yaml", "yml"] then some .yaml
  else if isOneOf ["dotenv", "env"] then some .variables
  else none

/-- The entries of a file. Variables may refer to those of the environment. -/
def fileEntries? (environment : List (Text × Text)) (format : FileFormat) (t : Text) :
    Option (List (Text × Value)) :=
  (match format with
    | .json => jsonEntries? t
    | .toml => Toml.entries? t
    | .yaml => Yaml.entries? t
    | .variables => (Dotenv.variables? environment t).map (List.map fun (name, v) => (name, .text v))).map
      Value.lowerKeysOf

def readFile (tree : FileTree) (environment : List (Text × Text)) (path : Text) :
    Except ConfigProblem (List (Text × Value)) :=
  let ext := extension path
  if !extensions.any fun e => Text.ofString e == ext then .error (.unsupported ext)
  else match tree.read path with
    | .error cause => .error (.unreadable cause)
    | .ok t => match (FileFormat.ofExtension? ext).bind fun format => fileEntries? environment format t with
      | some entries => .ok entries
      | none => .error .malformed

/-- The names of the file that is looked for in the working directory, the one without an extension last. -/
def usualNames : List Text :=
  (extensions.map fun e => Text.ofString ("ecsgen." ++ e)) ++ [Text.ofString "ecsgen"]

/-- The entries of the file in the working directory, if there is one. -/
def readUsualFile (tree : FileTree) : Except ConfigProblem (List (Text × Value)) :=
  match usualNames.findSome? tree.file? with
  | none => .ok []
  | some t => match fileEntries? [] .yaml t with
    | some entries => .ok entries
    | none => .error .malformed

/-- Load the configuration from the file at a path, or from the usual one when the path is empty, and from
the other sources. -/
def load (tree : FileTree) (path : Text) (environment : List (Text × Text)) (flags : Flags) :
    Except ConfigProblem Config :=
  match if path.isEmpty then readUsualFile tree else readFile tree environment path with
  | .error e => .error e
  | .ok file => match ofSources? { flags, environment, file } with
    | none => .error .wrongKind
    | some c => match c.validate with
      | .error e => .error (.invalid e)
      | .ok () => .ok c

end Config

end SystemLoops
