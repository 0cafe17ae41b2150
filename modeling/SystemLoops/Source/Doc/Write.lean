import SystemLoops.Source.Doc.Block

namespace SystemLoops.Source.Doc

/-- The first of several texts and the rest of them, each led by a text of its own. -/
private def indentRest (lead : Text) : List Text → List Text
  | [] => []
  | first :: rest => first :: rest.map (lead ++ ·)

private def entryParagraph (isFirst : Bool) (text : Text) : List Text :=
  let indent := Text.replicate 4 0x20
  let lines := indentRest indent (Text.lines text)
  if isFirst then lines else [] :: (match lines with
    | first :: rest => (indent ++ first) :: rest
    | [] => [])

/-- The lines of a list entry. An entry without a paragraph does not end its line. -/
private def entryLines (e : ListEntry) : List Text :=
  let mark := if e.number.isEmpty then Text.ofString "  - " else 0x20 :: e.number ++ Text.ofString ". "
  match e.paragraphs with
  | [] => [mark]
  | first :: rest =>
    match entryParagraph true first with
    | line :: lines => (mark ++ line) :: lines ++ rest.flatMap (entryParagraph false)
    | [] => [mark]

private def listText (entries : List ListEntry) (spaced : Bool) : Text :=
  let texts := entries.map fun e =>
    let text := Text.unlines (entryLines e)
    if e.paragraphs.isEmpty then text else text ++ [Text.newline]
  Text.join (if spaced then [Text.newline] else []) texts

/-- A block as it is printed, with the end of its last line. -/
private def blockText : Block → Text
  | .paragraph text => text ++ [Text.newline]
  | .heading text => 0x23 :: 0x20 :: text ++ [Text.newline]
  | .code lines =>
    lines.flatMap fun line => (if line.isEmpty then [] else 0x09 :: line) ++ [Text.newline]
  | .list entries _ spaced => listText entries spaced

/-- Whether a blank line stands before a block. -/
private def isSetOff : Block → Bool
  | .list _ spacedBefore _ => spacedBefore
  | _ => true

private def blockTexts : (isFirst : Bool) → List Block → Text
  | _, [] => []
  | isFirst, b :: rest =>
    (if !isFirst && isSetOff b then [Text.newline] else []) ++ blockText b ++ blockTexts false rest

/-- The block with its running text as it is printed, and the links that it uses. -/
private def Block.typeset (defined : List Text) : Block → Block × List Text
  | .paragraph text =>
    let (text, used) := inline defined text
    (.paragraph text, used)
  | .list entries before inside =>
    let entries := entries.map fun e => (e, e.paragraphs.map (inline defined))
    (.list (entries.map fun (e, ps) => { e with paragraphs := ps.map Prod.fst }) before inside,
      entries.flatMap fun (_, ps) => ps.flatMap Prod.snd)
  | b => (b, [])

/-- Link definitions behind a blank line. -/
private def linkTexts (links : List LinkDefinition) : Text :=
  if links.isEmpty then []
  else Text.newline :: links.flatMap fun l =>
    0x5B :: l.word ++ Text.ofString "]: " ++ l.address ++ [Text.newline]

private def firstDefinitions : (seen : List Text) → List LinkDefinition → List (LinkDefinition × Bool)
  | _, [] => []
  | seen, l :: rest => (l, !seen.contains l.word) :: firstDefinitions (l.word :: seen) rest

/-- The lines of a documentation text in standard layout, none when there is nothing to say. -/
def tidy? (lines : List Text) : Option (List Text) :=
  let (blocks, links) := read lines
  if blocks.isEmpty then none
  else
    let shown := blocks.map (Block.typeset (links.map LinkDefinition.word))
    let used := shown.flatMap Prod.snd
    let (usedLinks, unused) := (firstDefinitions [] links).partition fun (l, counts) =>
      counts && used.contains l.word
    let text := blockTexts true (shown.map Prod.fst) ++ linkTexts (usedLinks.map Prod.fst)
      ++ linkTexts (unused.map Prod.fst)
    some (Text.lines (Text.dropSuffix [Text.newline] text))

end SystemLoops.Source.Doc
