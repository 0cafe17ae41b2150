import SystemLoops.Fault
import SystemLoops.Source.LineMap

/-!
Indentation of source text. The lines that continue a raw string are part of a value, so neither
indenting nor dedenting touches them.
-/

namespace SystemLoops.Source

/-- The numbers, from zero, of the lines that start inside a raw string. Renumbering comments shift
them. -/
def rawStringLines (code : Text) : List Int :=
  let scanned := tokens code
  let lines := (LineMap.ofTokens [] code scanned).1
  scanned.flatMap fun token =>
    if token.tok == .string && token.literal.head? == some backquote then
      let start := lines.line token.offset
      (List.range (token.literal.count Text.newline)).map fun (i : Nat) => start + i
    else []

/-- Apply `change` to every line whose number is not in `kept`. -/
def mapLines (kept : List Int) (change : Text → Text) : (number : Nat) → List Text → List Text
  | _, [] => []
  | number, line :: rest =>
    (if kept.contains number then line else change line) :: mapLines kept change (number + 1) rest

/-- Put `level` tabs in front of every line that is neither blank nor inside a raw string. -/
def indentBy (level : Nat) (code : Text) : Text :=
  let tabs := Text.replicate level 0x09
  Text.unlines (mapLines (rawStringLines code)
    (fun line => if line.isBlank then line else tabs ++ line) 0 code.lines)

/-- Indent by a number of levels, which must not be negative unless there is nothing to indent. -/
def indent (code : Text) (level : Int) : Except Fault Text :=
  if code.isEmpty then .ok code
  else if level < 0 then .error .negativeRepeat
  else .ok (indentBy level.toNat code)

def leading (line : Text) : Text :=
  line.takeWhile fun b => b == 0x20 || b == 0x09

/-- The longest text that both begin with. -/
def commonPrefix : Text → Text → Text
  | a :: as, b :: bs => if a == b then a :: commonPrefix as bs else []
  | _, _ => []

/-- The lines that are neither blank nor inside a raw string. -/
def codeLines (kept : List Int) : (number : Nat) → List Text → List Text
  | _, [] => []
  | number, line :: rest =>
    if line.isBlank || kept.contains number then codeLines kept (number + 1) rest
    else line :: codeLines kept (number + 1) rest

def commonIndent (kept : List Int) (code : List Text) : Text :=
  match (codeLines kept 0 code).map leading with
  | [] => []
  | first :: others => others.foldl commonPrefix first

/-- Remove the indentation that all lines share. -/
def dedent (code : Text) : Text :=
  let kept := rawStringLines code
  let shared := commonIndent kept code.lines
  if shared.isEmpty then code
  else Text.unlines (mapLines kept (Text.dropPrefix shared) 0 code.lines)

end SystemLoops.Source
