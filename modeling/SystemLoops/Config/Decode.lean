import SystemLoops.Config.Basic
import SystemLoops.Config.Setting
import SystemLoops.Format.Shortest

namespace SystemLoops

open Format

namespace Format.Value

mutual

/-- Whether a value has anything in it that is no map. -/
def hasLeaf : Value → Bool
  | .map entries => anyLeaf entries
  | _ => true

/-- Whether one of several entries has anything in it that is no map. -/
def anyLeaf : List (Text × Value) → Bool
  | [] => false
  | (_, v) :: rest => v.hasLeaf || anyLeaf rest

end

private def notFiniteText (spelling : Text) : Text :=
  let lower := Text.asciiLower spelling
  if lower == Text.ofString ".nan" then "NaN"
  else if lower.head? == some 0x2D then "-Inf"
  else "+Inf"

def asText? : Value → Option Text
  | .text t => some t
  | .bool b => some (if b then "1" else "0")
  | .int n => some (Text.ofInt n)
  | .float x => some x.positional
  | .notFinite spelling => some (notFiniteText spelling)
  | _ => none

/-- The least signed word of 64 bits, which stands for a number that does not fit. -/
def leastWord : Int := -(Nat.pow 2 63 : Nat)

/-- A value as a signed word of 64 bits: the whole part of a number, or the number that a text spells. -/
def asInt? : Value → Option Int
  | .int n => some (Int.bmod n (Nat.pow 2 64))
  | .float x =>
    let n := x.truncate
    some (if leastWord ≤ n && n < -leastWord then n else leastWord)
  | .notFinite _ => some leastWord
  | .bool b => some (if b then 1 else 0)
  | .text t => if t.isEmpty then some 0 else t.integer.toOption
  | _ => none

/-- A value as a truth value: a number when it is not zero, or what a text spells. -/
def asBool? : Value → Option Bool
  | .bool b => some b
  | .int n => some (n != 0)
  | .float x => some (x.mantissa != 0)
  | .notFinite _ => some true
  | .text t => if t.isEmpty then some false else t.truth?
  | _ => none

/-- A value as the level of a log entry: the name of a level, or a number. -/
def asLevel? : Value → Option LogLevel
  | .text t => LogLevel.ofText? t
  | v => v.asInt?.map LogLevel.ofInt

end Format.Value

namespace Config

def default? (setting : Setting) : Option Value :=
  let d : Config := {}
  match setting with
  | .each => some (.text d.each)
  | .without => some (.text d.without)
  | .method => some (.text d.method)
  | .base => some (.text d.base)
  | .queryLead => some (.text d.queryLead)
  | .poolLead => some (.text d.poolLead)
  | .runtimeImport => some (.text d.runtimeImport)
  | .outputSuffix => some (.text d.outputSuffix)
  | .jobs => some (.int 0)
  | .format => some (.bool d.format)
  | .strict => some (.bool d.strict)
  | .logLevel => some (.text d.log.level.name)
  | .logFile => some (.text d.log.file)
  | .logMaxSize => some (.int d.log.maxSize)
  | .logMaxBackups => some (.int d.log.maxBackups)
  | .logMaxAge => some (.int d.log.maxAge)
  | .logCompress | .logDev => none

def setting? (s : Sources) (setting : Setting) : Option Value :=
  if setting.isBuiltIn then s.value? default? setting
  else if s.mentions setting then
    (s.value? default? setting).filter Value.hasLeaf
  else none

/-- A setting as a value of some kind, or what that kind has when there is no value. -/
private def read? {α : Type} (s : Sources) (as? : Value → Option α) (zero : α) (setting : Setting) :
    Option α :=
  match setting? s setting with
  | some v => as? v
  | none => some zero

/-- The configuration that sources give; nothing when a value is of the wrong kind. -/
def ofSources? (s : Sources) : Option Config := do
  if s.hasStrayGroup .names || s.hasStrayGroup .log then none
  let text := read? s Value.asText? []
  let int := read? s Value.asInt? 0
  let bool := read? s Value.asBool? false
  let jobs ← int .jobs
  return {
    each := ← text .each
    without := ← text .without
    method := ← text .method
    base := ← text .base
    queryLead := ← text .queryLead
    poolLead := ← text .poolLead
    runtimeImport := ← text .runtimeImport
    outputSuffix := ← text .outputSuffix
    jobs := if jobs ≤ 0 then none else some jobs.toNat
    format := ← bool .format
    strict := ← bool .strict
    log := {
      level := ← read? s Value.asLevel? .info .logLevel
      file := ← text .logFile
      maxSize := ← int .logMaxSize
      maxBackups := ← int .logMaxBackups
      maxAge := ← int .logMaxAge
      compress := ← bool .logCompress
      dev := ← bool .logDev } }

end Config

end SystemLoops
