import SystemLoops.Config.ImportPath
import SystemLoops.Discovery
import SystemLoops.Log
import SystemLoops.Output

namespace SystemLoops

structure Config where
  /-- The name of the iteration combinator. -/
  each : Text := "Each"
  /-- The name of the exclusion filter. -/
  without : Text := "Without"
  /-- The name of the update method. -/
  method : Text := "Update"
  /-- The type that systems embed. -/
  base : Text := "UpdateSystem"
  /-- What the names of queries start with. -/
  queryLead : Text := "query_"
  /-- What the names of pools start with. -/
  poolLead : Text := "pool"
  runtimeImport : Text := "github.com/aledsdavies/ecsgen/ecs"
  outputSuffix : Text := "_ecs.go"
  /-- How many systems are processed at a time; none for one per processor. -/
  jobs : Option Nat := none
  /-- Whether generated units are formatted. -/
  format : Bool := true
  /-- Whether warnings count as errors. -/
  strict : Bool := false
  log : LogOptions := {}
deriving Repr, DecidableEq, Inhabited

namespace Config

/-- Whether a text is an identifier: letters, digits and underscores, no digit in front, no keyword. -/
def isIdentifier (t : Text) : Bool :=
  let isLetter := fun c : Char => Unicode.isLetter c || c == '_'
  (Source.Tok.keyword? t).isNone && match t.chars with
    | [] => false
    | c :: rest => isLetter c && rest.all fun c => isLetter c || Unicode.isDigit c

def identifiers (c : Config) : List (String × Text) :=
  [("names.each", c.each), ("names.without", c.without), ("names.method", c.method),
   ("names.base", c.base), ("query_prefix", c.queryLead), ("pool_prefix", c.poolLead)]

/-- Whether generated files can end in a suffix. -/
def isOutputSuffix (suffix : Text) : Bool :=
  (Text.ofString ".go").isSuffixOf suffix && !(Text.ofString "_test.go").isSuffixOf suffix

/-- What is wrong with a configuration, in the order of its settings. -/
def problems (c : Config) : List Text :=
  (c.identifiers.filter fun setting => !isIdentifier setting.2).map
      (fun (name, value) => Text.ofString name ++ ": " ++ Text.quote value ++ " is not an identifier")
    ++ (if c.each == c.without then [Text.ofString "names.each and names.without must differ"] else [])
    ++ (if c.queryLead == c.poolLead then [Text.ofString "query_prefix and pool_prefix must differ"]
        else [])
    ++ (match ImportPath.check c.runtimeImport with
        | some problem =>
          [Text.ofString "runtime_import: malformed import path " ++ Text.quote c.runtimeImport ++ ": "
            ++ problem.message]
        | none => [])
    ++ (if isOutputSuffix c.outputSuffix then []
        else [Text.ofString "output_suffix: " ++ Text.quote c.outputSuffix
          ++ " must end in .go and not _test.go"])

def validate (c : Config) : Except Failure Unit :=
  match c.problems with
  | [] => .ok ()
  | problems => .error (.joined (problems.map .plain))

def batchOptions (c : Config) : BatchOptions :=
  { walk := { names := { each := c.each, without := c.without }, queryLead := c.queryLead }
    unit := { runtimeImport := c.runtimeImport, poolLead := c.poolLead, outputSuffix := c.outputSuffix
              eachName := c.each, format := c.format }
    strict := c.strict }

/-- How systems are found under a configuration. -/
def discoveryOptions (c : Config) : DiscoveryOptions :=
  { base := c.base, method := c.method, outputSuffix := c.outputSuffix }

end Config

end SystemLoops
