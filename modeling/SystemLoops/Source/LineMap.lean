import SystemLoops.Fault
import SystemLoops.Source.Scan
import SystemLoops.Text.Path

/-!
Lines and columns of a source text. A line starts at the front of the text and after every line feed
that is not its last byte. A line comment of the form `line name:number` at the start of a line, or
such a block comment anywhere, renumbers what follows it.
-/

namespace SystemLoops.Source

/-- From `offset` on, lines count from `line` and belong to `name`. A missing column makes the columns
unknown. -/
structure Renumbering where
  offset : Nat
  name : Text
  line : Int
  column : Option Int
deriving Repr, Inhabited

/-- The lines of one source text. -/
structure LineMap where
  name : Text
  size : Nat
  starts : Array Nat
  renumberings : Array Renumbering := #[]
deriving Repr, Inhabited

/-- A place in a source text as messages show it. -/
structure Place where
  name : Text
  offset : Nat
  line : Int
  column : Int
deriving Repr, DecidableEq, Inhabited

/-- The offsets at which lines start after the first one. -/
def lineStartsFrom (size : Nat) : (offset : Nat) → Text → List Nat
  | _, [] => []
  | offset, b :: rest =>
    if b == Text.newline && offset + 1 < size then
      (offset + 1) :: lineStartsFrom size (offset + 1) rest
    else lineStartsFrom size (offset + 1) rest

namespace LineMap

/-- The lines of a text, before any renumbering. -/
def plain (name source : Text) : LineMap :=
  { name, size := source.length
    starts := (0 :: lineStartsFrom source.length 0 source).toArray }

/-- The number of entries of a sorted array that are at most `x`, between `low` and `high`. -/
def countUpTo (xs : Array Nat) (x : Nat) : (steps low high : Nat) → Nat
  | 0, low, _ => low
  | steps + 1, low, high =>
    if low < high then
      let middle := (low + high) / 2
      if xs.getD middle 0 ≤ x then countUpTo xs x steps (middle + 1) high
      else countUpTo xs x steps low middle
    else low

/-- The number of the line that holds an offset, counting from one and ignoring renumberings. -/
def rawLine (m : LineMap) (offset : Nat) : Nat :=
  countUpTo m.starts offset m.starts.size 0 m.starts.size

def lineStart (m : LineMap) (line : Nat) : Nat :=
  m.starts.getD (line - 1) 0

/-- The column of an offset in its line, in bytes from one. -/
def rawColumn (m : LineMap) (offset : Nat) : Nat :=
  offset - m.lineStart (m.rawLine offset) + 1

/-- The number of lines. -/
def lineCount (m : LineMap) : Nat :=
  m.starts.size

/-- Let a line run on into the next one. -/
def mergeLine (m : LineMap) (line : Nat) : LineMap :=
  { m with starts := m.starts.eraseIdxIfInBounds line }

/-- Let the line of a shown number run on into the next one. A renumbered line may have a number that is
no line of the text. -/
def mergeShownLine (m : LineMap) (line : Int) : Except Fault LineMap :=
  if line < 1 then .error (.lineBelow line)
  else if line ≥ m.lineCount then .error (.lineBeyond line m.lineCount)
  else .ok (m.mergeLine line.toNat)

def renumbering? (m : LineMap) (offset : Nat) : Option Renumbering :=
  m.renumberings.findRev? fun r => decide (r.offset ≤ offset)

/-- The place of an offset, with renumberings applied. -/
def place (m : LineMap) (offset : Nat) : Place :=
  let line := m.rawLine offset
  let column := m.rawColumn offset
  match m.renumbering? offset with
  | none => ⟨m.name, offset, line, column⟩
  | some r =>
    let distance := line - m.rawLine r.offset
    let shown : Int := match r.column with
      | none => 0
      | some first => if distance == 0 then first + (offset - r.offset : Nat) else column
    ⟨r.name, offset, r.line + distance, shown⟩

/-- The line of an offset, with renumberings applied. -/
def line (m : LineMap) (offset : Nat) : Int :=
  (m.place offset).line

/-- Add a renumbering; it counts only behind the ones before it and inside the text. -/
def renumber (m : LineMap) (r : Renumbering) : LineMap :=
  let later := match m.renumberings.back? with
    | none => true
    | some last => decide (last.offset < r.offset)
  if later && r.offset < m.size then { m with renumberings := m.renumberings.push r } else m

end LineMap

/-! ### Renumbering comments -/

/-- What a comment says about line numbers. -/
inductive Directive where
  | none
  | malformed
  | renumber (name : Text) (line : Int) (column : Option Int)

/-- The number that a text of digits denotes as a signed machine word: the upper half of the words is
negative. -/
private def wordNumber? (t : Text) : Option Int :=
  match Text.toNat? t with
  | some n =>
    if n < Nat.pow 2 63 then some n
    else if n < Nat.pow 2 64 then some ((n : Int) - (Nat.pow 2 64 : Nat))
    else none
  | none => none

/-- The text before the last colon and the text after it. -/
private def cutLastColon (t : Text) : Option (Text × Text) :=
  if t.contains 0x3A then
    let tail := Text.afterLast 0x3A t
    some (t.take (t.length - tail.length - 1), tail)
  else .none

private def numberLimit : Nat := Nat.pow 2 30

/-- Zero and large numbers are refused; negative ones are not looked for. -/
private def inLimit (n : Int) : Bool := n != 0 && n ≤ numberLimit

/-- Read the text of a comment after its opening and `line`. -/
def Directive.read (body : Text) : Directive :=
  match cutLastColon body with
  | .none => .none
  | some (before, tail) =>
    match wordNumber? tail with
    | .none => .malformed
    | some n =>
      match (cutLastColon before).bind fun (front, middle) =>
          (wordNumber? middle).map fun m => (front, m) with
      | some (front, m) =>
        if inLimit n && inLimit m then .renumber front m (some n) else .malformed
      | .none => if inLimit n then .renumber before n .none else .malformed

/-- The source of a comment that may renumber: without marks, and without the line end. -/
def directiveBody? (raw : Text) (startsLine : Bool) : Option Text :=
  let isBlock := raw[1]? == some 0x2A
  let inner := raw.drop 2
  if !isBlock && !startsLine then none
  else if !(Text.ofString "line ").isPrefixOf inner then none
  else
    let body := inner.drop 5
    if isBlock then some (body.take (body.length - 2))
    else some (if body.getLast? == some 0x0D then body.dropLast else body)

/-- Apply what one comment token says. The second part tells whether it is malformed. -/
def applyComment (source : Array UInt8) (m : LineMap) (token : Token) : LineMap × Bool :=
  if token.flawed then (m, false) else
  let raw := (source.extract token.offset (token.offset + token.width)).toList
  let isBlock := raw[1]? == some 0x2A
  let finish := token.offset + token.width
  let next := if isBlock || finish ≥ source.size then finish else finish + 1
  match directiveBody? raw (m.lineStart (m.rawLine token.offset) == token.offset) with
  | none => (m, false)
  | some body =>
    match Directive.read body with
    | .none => (m, false)
    | .malformed => (m, true)
    | .renumber name line column =>
      let shown :=
        if name.isEmpty then
          if column.isSome then (m.place (token.offset + 7)).name else []
        else
          let cleaned := Path.clean name
          if Path.isAbsolute cleaned then cleaned else Path.join (Path.folder m.name) cleaned
      (m.renumber ⟨next, shown, line, column⟩, false)

/-- The lines of a source text whose tokens are given, and whether a renumbering is malformed. -/
def LineMap.ofTokens (name source : Text) (scanned : List Token) : LineMap × Bool :=
  let bytes := source.toArray
  scanned.foldl (fun (m, bad) token =>
    if token.tok == .comment then
      let (m', bad') := applyComment bytes m token
      (m', bad || bad')
    else (m, bad)) (LineMap.plain name source, false)

end SystemLoops.Source
