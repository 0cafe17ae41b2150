import SystemLoops.Text.Rune

/-!
Columns of text. Tabs end cells: a hard tab ends a cell of indentation, a vertical tab a cell that takes no
room when its whole column is empty. Cells above each other form a column as wide as its widest cell. A
form feed is a line end that also ends all columns, and so does a line of a single cell. Text between two
escape bytes is taken as it is.
-/

namespace SystemLoops.Source.Columns

/-- The byte around text that is taken as it is. -/
def escapeMark : UInt8 := 0xFF

/-- The byte that ends a cell of indentation. -/
def hardTab : UInt8 := 0x09

/-- The byte that ends any other cell. -/
def softTab : UInt8 := 0x0B

/-- The line end that ends all columns. -/
def formFeed : UInt8 := 0x0C

/-- A piece of a line. -/
structure Cell where
  text : Text
  /-- The number of characters, escapes not counted. -/
  width : Nat
  hard : Bool
deriving Repr

namespace Cell

def ofText (text : Text) (hard : Bool) : Cell :=
  ⟨text, (Text.runes (text.filter (· != escapeMark))).length, hard⟩

end Cell

/-- The cells of a line; the last one is in no column. -/
abbrev Line := List Cell

/-- Cells gathered from the front of a text; lists hold the latest entry first. -/
structure Gathered where
  cell : Text := []
  escaped : Bool := false
  line : List Cell := []
  lines : List Line := []
  sections : List (List Line) := []

namespace Gathered

def endCell (g : Gathered) (hard : Bool) : Gathered :=
  { g with cell := [], line := .ofText g.cell.reverse hard :: g.line }

/-- End the line, and the section where `always` says so or where the line has a single cell. -/
def endLine (g : Gathered) (always : Bool) : Gathered :=
  let g := g.endCell false
  let lines := g.line.reverse :: g.lines
  if always || g.line.length == 1 then
    { g with line := [], lines := [], sections := lines.reverse :: g.sections }
  else { g with line := [], lines }

/-- Take one more byte. -/
def step (g : Gathered) (b : UInt8) : Gathered :=
  if g.escaped then { g with cell := b :: g.cell, escaped := b != escapeMark }
  else if b == escapeMark then { g with cell := b :: g.cell, escaped := true }
  else if b == hardTab || b == softTab then g.endCell (b == hardTab)
  else if b == Text.newline || b == formFeed then g.endLine (b == formFeed)
  else { g with cell := b :: g.cell }

end Gathered

def tabWidth : Nat := 8

/-- The least room between two columns. -/
def padding : Nat := 1

/-- The room after a text of width `used` in a cell of width `room`. Indentation is padded with tabs. -/
def pad (used room : Nat) (tabs : Bool) : Text :=
  if tabs then
    let room := (room + tabWidth - 1) / tabWidth * tabWidth
    Text.replicate ((room - used + tabWidth - 1) / tabWidth) hardTab
  else Text.replicate (room - used) 0x20

/-- A line of which the first cells are laid out. -/
structure Partial where
  /-- What is laid out. -/
  done : Array UInt8 := #[]
  /-- Only empty cells were laid out. -/
  tabs : Bool := true
  rest : Line

namespace Partial

/-- Whether the next cell is in a column. -/
def hasColumn (p : Partial) : Bool :=
  match p.rest with
  | _ :: _ :: _ => true
  | _ => false

/-- Lay out the next cell in a column of a width. -/
def step (width : Nat) (p : Partial) : Partial :=
  match p.rest with
  | [] => p
  | c :: rest =>
    let tabs := p.tabs && c.text.isEmpty
    { done := p.done ++ c.text.toArray ++ (pad c.width width tabs).toArray, tabs, rest }

/-- The line with the cells that are left. -/
def text (p : Partial) : Text :=
  p.done.toList ++ p.rest.flatMap Cell.text

end Partial

def columnWidth (cells : List Cell) : Nat :=
  if cells.all fun c => c.width == 0 && !c.hard then 0
  else cells.foldl (fun w c => max w (c.width + padding)) 0

/-- Lay out lines of which the same number of cells is laid out; there are at most `more` further columns. -/
def layout : (more : Nat) → List Partial → List Text
  | 0, lines => lines.map Partial.text
  | more + 1, lines =>
    let blocks := lines.splitBy fun a b => a.hasColumn == b.hasColumn
    blocks.flatMap fun block =>
      if block.all Partial.hasColumn then
        let width := columnWidth (block.filterMap fun p => p.rest.head?)
        layout more (block.map (Partial.step width))
      else block.map Partial.text

def layoutSection (lines : List Line) : List Text :=
  layout (lines.foldl (fun n line => max n line.length) 0) (lines.map fun rest => { rest })

def align (t : Text) : Text :=
  let g := t.foldl Gathered.step {}
  let g := if g.cell.isEmpty then g else g.endCell false
  let complete := (g.sections.reverse.map fun lines =>
    (layoutSection lines).flatMap fun line => line ++ [Text.newline]).flatten
  complete ++ Text.join [Text.newline] (layoutSection (g.line.reverse :: g.lines).reverse)

/-- A text without blanks at the ends of lines, gathered from the front; the latest byte is first. -/
structure Trimmed where
  output : List UInt8 := []
  blanks : List UInt8 := []
  escaped : Bool := false

namespace Trimmed

/-- Take one more byte. -/
def step (s : Trimmed) (b : UInt8) : Trimmed :=
  if s.escaped then
    if b == escapeMark then { s with escaped := false } else { s with output := b :: s.output }
  else if b == hardTab || b == softTab then { s with blanks := hardTab :: s.blanks }
  else if b == 0x20 then { s with blanks := b :: s.blanks }
  else if b == Text.newline || b == formFeed then
    { s with blanks := [], output := Text.newline :: s.output }
  else
    let output := s.blanks ++ s.output
    if b == escapeMark then { output, escaped := true } else { output := b :: output }

end Trimmed

/-- Drop the blanks at the ends of lines and the escapes; every line end becomes a line feed. -/
def trim (t : Text) : Text :=
  (t.foldl Trimmed.step {}).output.reverse

end SystemLoops.Source.Columns
