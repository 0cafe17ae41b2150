import SystemLoops.Source.Constraint
import SystemLoops.Source.Print.Writer

/-!
The place of build constraints in printed files. Wherever they stand in the source, they are gathered above
the declarations, behind the last blank line of the comments there, and a blank line follows them. A
constraint of the current form decides: the lines of the older form are written anew from it. Without one,
the lines of the older form give it. Lines that cannot be read, and several constraints of the current form,
are only gathered.
-/

namespace SystemLoops.Source.PrintState

/-- Whether a byte of the output ends a line. -/
private def isBreak (b : UInt8) : Bool :=
  b == Text.newline || b == Columns.formFeed

/-- What follows the last blank line among the comments that an output starts with. `offset` is where the
lines start, `found` the best place so far. -/
private def behindBlank (offset found : Nat) : List Text → Nat
  | [] => found
  | line :: rest =>
    let next := offset + line.length
    match line.dropWhile fun b => b == 0x20 || b == Columns.hardTab with
    | [] => found
    | b :: more =>
      if isBreak b then behindBlank next next rest
      else if line.getLast?.any isBreak && [Columns.escapeMark, 0x2F, 0x2F].isPrefixOf (b :: more) then
        behindBlank next found rest
      else found

/-- The rest of a line of the output, with its end. -/
private def lineFrom (output : Text) (start : Nat) : Text :=
  let rest := output.drop start
  let line := rest.takeWhile fun b => !isBreak b
  rest.take (line.length + 1)

/-- The comment that was written at a place, as far as no indentation stands in front of it. -/
private def commentFrom (output : Text) (start : Nat) : Text :=
  (Text.dropPrefix [Columns.escapeMark] (output.drop start)).takeWhile fun b =>
    b != Columns.escapeMark && !isBreak b

/-- Lines behind other lines, without a second blank line in a row. -/
private def appendLines (before after : Text) : Text :=
  let doubled := after.head?.any isBreak
    && (before.isEmpty || (2 ≤ before.length && (before.reverse.take 2).all isBreak))
  before ++ if doubled then after.drop 1 else after

/-- The output from `start` on without the lines at the given places. -/
private def withoutLines (output : Text) : (start : Nat) → List Nat → Text → Text
  | start, [], kept => appendLines kept (output.drop start)
  | start, place :: places, kept =>
    if place < start then withoutLines output start places kept
    else
      let next := place + (lineFrom output place).length
      withoutLines output next places (appendLines kept ((output.drop start).take (place - start)))

/-- The constraint that holds for the output: the one of the current form or, without one, all of the
older form together. -/
private def constraint? (s : PrintState) (output : Text) : Option Constraint :=
  match s.constraints with
  | [place] => Constraint.ofComment? (commentFrom output place)
  | _ :: _ :: _ => none
  | [] => do
    match ← s.clauseLines.mapM fun place => Constraint.ofComment? (commentFrom output place) with
    | [] => none
    | x :: rest => some (rest.foldl .and x)

/-- The lines that state a constraint, with its older form if the output has some of that form. -/
private def statedLines (x : Constraint) (older : Bool) : List Text :=
  let complex := Text.ofString "// +build error: expression too complex for // +build lines"
  (Text.ofString "//go:build " ++ x.render) :: if older then x.clauseLines?.getD [complex] else []

/-- The output with its build constraints in their place. -/
def gatherConstraints (s : PrintState) : Text :=
  let output := s.output.toList
  let places := s.constraints ++ s.clauseLines
  if places.isEmpty then output
  else
    let found := behindBlank 0 0 (output.splitBy fun a _ => !isBreak a)
    let place := match s.constraints.head?, s.clauseLines.head? with
      | some c, l => if c < found then c else min found (l.getD found)
      | none, l => min found (l.getD found)
    let escaped := fun line : Text => Columns.escapeMark :: line ++ [Columns.escapeMark, Text.newline]
    let lines := match s.constraint? output with
      | some x => (statedLines x (!s.clauseLines.isEmpty)).map escaped
      | none => places.map (lineFrom output)
    let after := withoutLines output place (places.mergeSort (· ≤ ·)) []
    let after := if 2 ≤ after.length && (after.reverse.take 2).all isBreak then after.dropLast else after
    output.take place ++ lines.flatten ++ [Text.newline] ++ after

end SystemLoops.Source.PrintState
