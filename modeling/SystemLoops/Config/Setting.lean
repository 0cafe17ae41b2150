import SystemLoops.Flags
import SystemLoops.Format.Value
import SystemLoops.Text.Spelling

/-!
Where the value of a setting comes from. A flag that is given wins over the environment, the environment
over the configuration file, and the file over the default. A group of settings whose own variable is set
in the environment, or whose own entry in the file is no map, hides what comes after it.
-/

namespace SystemLoops

open Format

inductive Setting where
  | each | without | method | base
  | queryLead | poolLead | runtimeImport | outputSuffix | jobs | format | strict
  | logLevel | logFile | logMaxSize | logMaxBackups | logMaxAge | logCompress | logDev
deriving Repr, DecidableEq, Inhabited

inductive SettingGroup where
  | names
  | log
deriving Repr, DecidableEq, Inhabited

def SettingGroup.key : SettingGroup → String
  | .names => "names"
  | .log => "log"

namespace Setting

def all : List Setting :=
  [.each, .without, .method, .base, .queryLead, .poolLead, .runtimeImport, .outputSuffix, .jobs, .format,
   .strict, .logLevel, .logFile, .logMaxSize, .logMaxBackups, .logMaxAge, .logCompress, .logDev]

/-- The group that a setting belongs to, if any. -/
def group? : Setting → Option SettingGroup
  | .each | .without | .method | .base => some .names
  | .logLevel | .logFile | .logMaxSize | .logMaxBackups | .logMaxAge | .logCompress | .logDev => some .log
  | _ => none

def key : Setting → String
  | .each => "each"
  | .without => "without"
  | .method => "method"
  | .base => "base"
  | .queryLead => "query_prefix"
  | .poolLead => "pool_prefix"
  | .runtimeImport => "runtime_import"
  | .outputSuffix => "output_suffix"
  | .jobs => "jobs"
  | .format => "format"
  | .strict => "strict"
  | .logLevel => "level"
  | .logFile => "file"
  | .logMaxSize => "max_size"
  | .logMaxBackups => "max_backups"
  | .logMaxAge => "max_age"
  | .logCompress => "compress"
  | .logDev => "dev"

/-- The flag that sets a setting, if any. -/
def flag? : Setting → Option String
  | .each => some "each"
  | .without => some "without"
  | .queryLead => some "query-prefix"
  | .poolLead => some "pool-prefix"
  | .runtimeImport => some "runtime-import"
  | .outputSuffix => some "output-suffix"
  | .jobs => some "jobs"
  | .format => some "format"
  | .strict => some "strict"
  | .logLevel => some "log-level"
  | .logFile => some "log-file"
  | _ => none

/-- Whether a setting is known even when no file mentions it. -/
def isBuiltIn : Setting → Bool
  | .logCompress | .logDev => false
  | _ => true

/-- The key of a setting in front of which its group stands. -/
def dottedKey (s : Setting) : String :=
  match s.group? with
  | some g => g.key ++ "." ++ s.key
  | none => s.key

end Setting

structure Sources where
  flags : Flags := {}
  environment : List (Text × Text) := []
  /-- The entries of the configuration file, with their keys in lower case. -/
  file : List (Text × Value) := []
deriving Repr, Inhabited

namespace Sources

def variableName (key : String) : Text :=
  Text.ofString "ECSGEN_" ++ (Text.asciiUpper key).map fun b => if b == 0x2E then 0x5F else b

def variableNames : List Text :=
  (SettingGroup.names.key :: SettingGroup.log.key :: Setting.all.map Setting.dottedKey).map variableName

/-- The variable of a key, when it is set and not empty. -/
def fromEnvironment? (s : Sources) (key : String) : Option Text :=
  match s.environment.lookup (variableName key) with
  | some t => if t.isEmpty then none else some t
  | none => none

/-- An entry of a file that is not null. -/
def present? (entries : List (Text × Value)) (key : String) : Option Value :=
  (entries.lookup (Text.ofString key)).bind fun v => if v.isNull then none else some v

/-- The entry of a key, or else, if letter case does not matter, of another spelling of it. -/
def keyed? (entries : List (Text × Value)) (anyCase : Bool) (key : String) : Option Value :=
  (entries.lookup (Text.ofString key)).or
    (if anyCase then (entries.find? fun e => Text.equalFold e.1 key).map Prod.snd else none)

/-- The entries of the group of a setting in the file. -/
def groupEntries (s : Sources) (setting : Setting) : List (Text × Value) :=
  match setting.group?.bind fun g => present? s.file g.key with
  | some (.map entries) => entries
  | _ => []

/-- What the file says about a setting: under its dotted key, or else within its group. Other spellings count
for settings that are not known by themselves. -/
def fileValue? (s : Sources) (setting : Setting) : Option Value :=
  let anyCase := !setting.isBuiltIn
  let notNull := fun v : Value => !v.isNull
  ((keyed? s.file anyCase setting.dottedKey).filter notNull).or
    ((keyed? (s.groupEntries setting) anyCase setting.key).filter notNull)

/-- Whether the file mentions a setting, be it as null. -/
def mentions (s : Sources) (setting : Setting) : Bool :=
  let anyCase := !setting.isBuiltIn
  (keyed? s.file anyCase setting.dottedKey).isSome
    || (keyed? (s.groupEntries setting) anyCase setting.key).isSome

/-- Whether the group of a setting has something else than a map in the file. -/
def isHidden (s : Sources) (setting : Setting) : Bool :=
  (do match ← present? s.file (← setting.group?).key with
    | .map _ => none
    | v => some v).isSome

def flagValue : FlagValue → Value
  | .text t => .text t
  | .int n => .int n
  | .bool b => .bool b

/-- The value of a setting: nothing when its group hides it, its default when no source has one. -/
def value? (s : Sources) (default : Setting → Option Value) (setting : Setting) : Option Value :=
  match setting.flag?.bind s.flags.value? with
  | some v => some (flagValue v)
  | none =>
    match s.fromEnvironment? setting.dottedKey with
    | some t => some (.text t)
    | none =>
      if (setting.group?.bind fun g => s.fromEnvironment? g.key).isSome then none
      else match s.fileValue? setting with
        | some v => some v
        | none => if s.isHidden setting then none else default setting

/-- Whether a group has something else than a map as its own value. A point in time counts as a group
without settings. -/
def hasStrayGroup (s : Sources) (g : SettingGroup) : Bool :=
  match s.file.lookup (Text.ofString g.key) with
  | some (.map _) => false
  | some .null => (s.fromEnvironment? g.key).isSome
  | some .timestamp => false
  | some _ => true
  | none => false

end Sources

end SystemLoops
