import SystemLoops.Text.Rune
import SystemLoops.Text.Unicode.Category
import SystemLoops.Text.Unicode.Case

namespace SystemLoops.Text

/-- The text in lower case, character by character. -/
def toLower (t : Text) : Text :=
  ofChars ((chars t).map Unicode.toLower)

/-- Whether two texts are equal when letter case is ignored. -/
def equalFold (a b : Text) : Bool :=
  (chars a).map Unicode.fold == (chars b).map Unicode.fold

/-- The ASCII letters in lower case, every other byte as it is. -/
def asciiLower (t : Text) : Text :=
  t.map fun b => if 0x41 ≤ b && b ≤ 0x5A then b + 0x20 else b

/-- The ASCII letters in upper case, every other byte as it is. -/
def asciiUpper (t : Text) : Text :=
  t.map fun b => if 0x61 ≤ b && b ≤ 0x7A then b - 0x20 else b

end SystemLoops.Text

namespace SystemLoops

variable {α : Type u} [BEq α]

/-- The next row of distances: `row` holds the distances to the beginnings of the other sequence, and
`left` is the distance to its empty beginning after one more element `x`. -/
def editRow (x : α) : (left : Nat) → List α → List Nat → List Nat
  | left, y :: ys, diagonal :: above :: rest =>
    let best := if x == y then diagonal else 1 + min diagonal (min left above)
    left :: editRow x best ys (above :: rest)
  | left, _, _ => [left]

def editDistance (xs ys : List α) : Nat :=
  let first := List.range (ys.length + 1)
  let last := (xs.foldl (fun (n, row) x => (n + 1, editRow x (n + 1) ys row)) (0, first)).2
  last.getLast?.getD 0

end SystemLoops
