import SystemLoops.Source.Tree

namespace SystemLoops.Source

namespace Comment

/-- Whether a byte may stand in the name of a tool. -/
private def isToolByte (b : UInt8) : Bool :=
  (0x61 ≤ b && b ≤ 0x7A) || Text.isDecimal b

/-- Whether the text behind the mark of a line comment addresses a tool: by an old word, or by the name of
the tool, a colon and a word. -/
def isDirective (body : Text) : Bool :=
  ["line ", "extern ", "export "].any (fun (s : String) => (Text.ofString s).isPrefixOf body)
    || match Text.cut 0x3A body with
      | some (tool, word :: _) => !tool.isEmpty && tool.all isToolByte && isToolByte word
      | _ => false

end Comment

namespace CommentGroup

/-- Whether a byte is blank at the end of a line. -/
private def isTrailingBlank (b : UInt8) : Bool :=
  b == 0x20 || b == 0x09 || b == 0x0A || b == 0x0D

/-- The lines of one comment without its marks, none for a directive. -/
private def bareLines (c : Comment) : List Text :=
  let body := c.text.drop 2
  let bare? :=
    if !c.isLine then some (body.take (body.length - 2))
    else match body with
      | 0x20 :: rest => some rest
      | [] => some []
      | body => if Comment.isDirective body then none else some body
  match bare? with
  | none => []
  | some t => (Text.lines t).map (Text.trimEnd isTrailingBlank)

/-- Leave out blank lines in front and all but one of several blank lines in a row. -/
private def squeeze : (blankBefore : Bool) → List Text → List Text
  | _, [] => []
  | blankBefore, line :: rest =>
    if line.isEmpty && blankBefore then squeeze true rest else line :: squeeze line.isEmpty rest

/-- The text of a group of comments: every line ends with a line feed. -/
def text (g : CommentGroup) : Text :=
  let lines := squeeze true (g.flatMap bareLines)
  match lines.getLast? with
  | none => []
  | some last => Text.unlines (if last.isEmpty then lines else lines ++ [[]])

def moveTo (g : CommentGroup) (p : Pos) : CommentGroup :=
  g.map fun c => { c with pos := p }

end CommentGroup

end SystemLoops.Source
