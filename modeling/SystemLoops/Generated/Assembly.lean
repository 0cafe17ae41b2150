import SystemLoops.Canonical
import SystemLoops.Loop
import SystemLoops.Text.Path

namespace SystemLoops

/-- How units are assembled. Empty texts stand for the defaults. -/
structure UnitOptions where
  runtimeImport : Text := "github.com/aledsdavies/ecsgen/ecs"
  poolLead : Text := Loop.defaultPoolLead
  outputSuffix : Text := "_ecs.go"
  eachName : Text := "Each"
  /-- Whether units are formatted and freed of imports that they do not use. -/
  format : Bool := true
deriving Repr, DecidableEq, Inhabited

namespace UnitOptions

/-- The options with defaults in place of empty texts. -/
def complete (o : UnitOptions) : UnitOptions :=
  let d : UnitOptions := {}
  { o with
    runtimeImport := if o.runtimeImport.isEmpty then d.runtimeImport else o.runtimeImport
    poolLead := if o.poolLead.isEmpty then d.poolLead else o.poolLead
    outputSuffix := if o.outputSuffix.isEmpty then d.outputSuffix else o.outputSuffix
    eachName := if o.eachName.isEmpty then d.eachName else o.eachName }

end UnitOptions

/-- A storage handle. -/
structure PoolField where
  field : Text
  type : Text
  init : Text
deriving Repr, DecidableEq, Inhabited

structure QueryField where
  field : Text
  init : Text
deriving Repr, DecidableEq, Inhabited

/-- The parts of a unit. -/
structure Assembly where
  source : Text
  digest : Text := []
  package : Text
  imports : List Text
  system : Text
  stateType : Text
  receiver : Text
  runtime : Text
  each : Text
  pools : List PoolField
  queries : List QueryField
  body : Text
deriving Repr, DecidableEq, Inhabited

namespace Assembly

/-- The receiver of units whose method has no named one. -/
def defaultReceiver : Text := "sys"

/-- The package of units whose method has none. -/
def defaultPackage : Text := "main"

/-- The receiver that generated code uses. -/
def receiverOf (a : Analysis) : Text :=
  if a.receiver.isEmpty || a.receiver == Text.ofString "_" then defaultReceiver else a.receiver

/-- How the loops of a unit address the fields of their system. -/
def loopOptions (a : Analysis) (o : UnitOptions) : LoopOptions :=
  { receiver := receiverOf a, poolLead := o.complete.poolLead }

def qualified (a : Assembly) (field : Text) : Text :=
  a.receiver ++ "." ++ field

/-- The lines of the imports whose path is not among those seen and comes up for the first time. -/
def importLinesFrom : (seen : List Text) → List Import → List Text
  | _, [] => []
  | seen, i :: rest =>
    if seen.contains i.path then importLinesFrom seen rest
    else i.render :: importLinesFrom (i.path :: seen) rest

/-- The lines of the import declaration: the runtime first, then the imports of the method whose path
has not come up yet. -/
def importLines (imports : List Import) (runtimeImport : Text) : List Text :=
  Text.quote runtimeImport :: importLinesFrom [runtimeImport] imports

/-- The text that makes a query: one argument for every component type, and one further call for every
type that is left out. -/
def queryInit (runtime : Text) (q : QueryDecl) : Text :=
  let typeOf := fun t : Text => runtime ++ ".TypeOf[" ++ t ++ "]()"
  let arguments : Text := q.types.flatMap fun t => ", " ++ typeOf t
  let filters : Text := q.exclusions.flatMap fun t => ".Without(" ++ typeOf t ++ ")"
  runtime ++ ".NewQuery(world" ++ arguments ++ ")" ++ filters

/-- The warning about a loop whose exclusions are not applied. -/
def conflictWarning (arena : Arena) (c : Conflict) : Diagnostic :=
  let position := match arena.lookup? c.node with
    | some n => n.position
    | none => {}
  .warn position ("query " ++ c.name ++ " already filters [" ++ Text.join ", " c.kept
    ++ "]; exclusions [" ++ Text.join ", " c.dropped ++ "] of " ++ c.node.render
    ++ " are not applied")

/-- Render the pieces of the preamble, claiming nodes on the way. The arena that is left comes with the
outcome, also when rendering fails. -/
def renderPreamble (o : LoopOptions) : Arena → Template → Except Failure (List Text) × Arena
  | arena, [] => (.ok [], arena)
  | arena, .text source :: rest =>
    let (texts, left) := renderPreamble o arena rest
    (texts.map (source :: ·), left)
  | arena, .hole key :: rest =>
    match Loop.render o arena key with
    | (.error f, left) => (.error f, left)
    | (.ok loop, left) =>
      let (texts, left) := renderPreamble o left rest
      (texts.map (loop :: ·), left)

/-- A method whose nodes cannot be resolved. -/
def registryFailure (system : Text) (cause : Failure) : Failure :=
  .unit "registry" system "cannot resolve nested iteration" (some cause)

/-- The parts of the unit of a method, and the warnings that come up on the way. The nodes of the method
are not used up. -/
def ofAnalysis (a : Analysis) (options : UnitOptions) :
    Except Trouble (Assembly × List Diagnostic) :=
  let o := options.complete
  let runtime := Path.base o.runtimeImport
  let receiver := receiverOf a
  match Identifier.lowerFirst a.system with
  | .error f => .error (.fault f)
  | .ok lowered =>
    let arena := a.arena.getD .empty
    let declared := Declared.ofNodes arena.nodes
    match (renderPreamble (loopOptions a options) arena.clone a.preamble).1 with
    | .error f => .error (.failure (registryFailure a.system f))
    | .ok parts =>
      .ok ({
        source := if a.position.file.isEmpty then [] else Path.base a.position.file
        package := if a.package.isEmpty then defaultPackage else a.package
        imports := importLines a.imports o.runtimeImport
        system := a.system
        stateType := lowered ++ "ECS"
        receiver, runtime
        each := o.eachName
        pools := (a.storageTypes.getD []).map fun t =>
          { field := Loop.poolName o.poolLead t, type := t
            init := runtime ++ ".GetPool[" ++ t ++ "](world)" }
        queries := declared.queries.map fun q => ⟨q.name, queryInit runtime q⟩
        body := Source.indentBy 1 (Text.unlines parts) },
        declared.conflicts.map (conflictWarning arena))

end Assembly

end SystemLoops
