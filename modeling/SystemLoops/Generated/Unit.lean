import SystemLoops.Generated.Layout
import SystemLoops.Source.Imports
import SystemLoops.Source.Print.Statement
import SystemLoops.Source.ScopeDepth

namespace SystemLoops.Source

/-- The text of a parsed file in standard layout, with imports sorted. Sorting starts from a text that is
laid out already. -/
def Parsed.format? (p : Parsed) (size : Nat) : Option Text :=
  if p.hasImportGroup then
    match parse? [] (p.print size) with
    | some again => some (again.sortImports.print size)
    | none => none
  else some (p.print size)

/-- The tidied form of a source text, if it can be read. -/
def tidy? (text : Text) : Except Fault (Option Text) := do
  match parseScoped? (Text.ofString "unit.go") text with
  | some p => return (← p.dropUnusedImports).format? (text.length + 2)
  | none => return none

end SystemLoops.Source

namespace SystemLoops

structure GeneratedUnit where
  system : Text
  fileName : Text
  source : Text
  digest : Text
  diagnostics : List Diagnostic
deriving Repr, DecidableEq, Inhabited

namespace GeneratedUnit

/-- A unit that is not valid source. -/
def formatFailure (system : Text) : Failure :=
  .unit "format" system "generated unit is not valid Go" (some .badSource)

/-- The unit of a method. The nodes of the method are not used up. -/
def ofAnalysis (a : Analysis) (options : UnitOptions) : Except Trouble GeneratedUnit :=
  let o := options.complete
  match a.validate with
  | .error f => .error (.failure (Assembly.registryFailure a.system f))
  | .ok () =>
    match Assembly.ofAnalysis a o with
    | .error t => .error t
    | .ok (parts, warnings) =>
      let text := Layout.render { parts with digest := a.digest }
      let finished := if o.format then Source.tidy? text else .ok (some text)
      match finished with
      | .error f => .error (.fault f)
      | .ok none => .error (.failure (formatFailure a.system))
      | .ok (some source) =>
        .ok { system := a.system, fileName := Identifier.fileName a.system o.outputSuffix, source
              digest := a.digest, diagnostics := a.diagnostics ++ warnings }

end GeneratedUnit

end SystemLoops
