import SystemLoops.Source.CommentText
import SystemLoops.Source.Doc.Write

namespace SystemLoops.Source.Comment

private def star : UInt8 := 0x2A

def isBlankLine (line : Text) : Bool :=
  line.all (· ≤ 0x20)

/-- The blanks and stars that two lines start with in common. -/
def commonPrefix : Text → Text → Text
  | a :: as, b :: bs =>
    if a == b && (a ≤ 0x20 || a == star) then a :: commonPrefix as bs else []
  | _, _ => []

/-- What the inner lines of a comment start with in common. -/
private def innerPrefix? (inner : List Text) : Option Text :=
  match inner.filter fun line => !isBlankLine line with
  | [] => none
  | first :: rest => some (rest.foldl commonPrefix (commonPrefix first first))

/-- Shorten a text by up to three blanks, or else by one tab, at its end. -/
private def dropTextIndent (t : Text) : Text :=
  let blanks := min 3 (t.reverse.takeWhile (· == 0x20)).length
  if blanks > 0 then t.take (t.length - blanks)
  else if t.getLast? == some 0x09 then t.dropLast
  else t

/-- What the text of the first line is indented by, its opening counted as two blanks unless a tab makes
up for it. -/
private def firstIndent (first : Text) : Text :=
  let blanks := (first.drop 2).takeWhile (· ≤ 0x20)
  if blanks.head? == some 0x09 then blanks else 0x20 :: 0x20 :: blanks

/-- What is taken off the lines of a comment, and whether the lines have stars in front. -/
private def takenOff (first : Text) (common : Text) : Text × Bool :=
  match Text.cut star common with
  | some (before, _) => (Text.dropSuffix [0x20] before, true)
  | none =>
    if isBlankLine (first.drop 2) then (dropTextIndent common, false)
    else (Text.dropSuffix (firstIndent first) common, false)

private def beforeClosing : Text → Text
  | 0x2A :: 0x2F :: _ => []
  | b :: rest => b :: beforeClosing rest
  | [] => []

/-- The lines of a comment without what they have in common. -/
def stripLines (lines : List Text) : List Text :=
  match lines with
  | first :: second :: rest =>
    let others := second :: rest
    let inner := others.dropLast
    let last := others.getLastD []
    let common := (innerPrefix? inner).getD (commonPrefix last last)
    let (off, stars) := takenOff first common
    let inner := inner.map fun line => if isBlankLine line then [] else line
    let onlyCloses := isBlankLine (beforeClosing last)
    let closing : Text := if stars then [0x20, star, 0x2F] else [star, 0x2F]
    let last := if onlyCloses then off ++ closing else last
    let off := if onlyCloses then off else commonPrefix off last
    first :: (inner ++ [last]).map fun line => line.drop off.length
  | lines => lines

/-- Whether the lines of a block comment all start with a star. -/
private def isStarred (text : Text) : Bool :=
  ((Text.lines text).drop 1).all fun line =>
    (line.dropWhile fun b => b == 0x20 || b == 0x09).head? == some star

/-- A documentation text as it is printed behind marks. -/
private def markedLine (line : Text) : Text :=
  match line.head? with
  | none => [0x2F, 0x2F]
  | some 0x09 => 0x2F :: 0x2F :: line
  | some _ => 0x2F :: 0x2F :: 0x20 :: line

/-- Documentation in line comments: the text first, then the directives. Without a text there is nothing
to print; directives alone stay as they are. -/
private def tidyLines (g : CommentGroup) : CommentGroup :=
  let (directives, prose) := g.partition fun c => Comment.isDirective (c.text.drop 2)
  if prose.isEmpty then g
  else match Doc.tidy? (prose.map fun c => Text.dropPrefix [0x20] (c.text.drop 2)) with
    | none => []
    | some lines =>
      let extra := if directives.isEmpty then [] else [0x2F, 0x2F] :: directives.map Comment.text
      (lines.map markedLine ++ extra).map fun text => ⟨g.start, text⟩

/-- A documentation comment as it is printed. A block comment on one line and one with a line of stars stay
as they are, and so does a mixture of line and block comments. -/
def tidyDocumentation (g : CommentGroup) : CommentGroup :=
  match g with
  | [c] =>
    if c.isLine then tidyLines g
    else if !c.text.contains Text.newline || isStarred c.text then g
    else
      let body := (c.text.drop 2).take (c.text.length - 4)
      match Doc.tidy? (Text.lines body) with
      | none => []
      | some lines => [{ c with text := Text.unlines ([0x2F, star] :: lines ++ [[star, 0x2F]]) }]
  | g => if g.all Comment.isLine then tidyLines g else g

end SystemLoops.Source.Comment
