import SystemLoops.Source.Doc.Inline

/-!
The blocks of a documentation comment: paragraphs, headings, lists and code. Indented lines are a list
when the first of them starts with a list mark, and code otherwise. Lines that are not indented are a
paragraph, or a heading when one stands alone and looks like one. Paragraphs of link definitions are taken
out of the text.
-/

namespace SystemLoops.Source.Doc

/-- An entry of a list; an entry without a number has a bullet. -/
structure ListEntry where
  number : Text
  paragraphs : List Text := []
deriving Repr, DecidableEq, Inhabited

/-- A block of a documentation text. -/
inductive Block where
  | paragraph (text : Text)
  | heading (text : Text)
  | code (lines : List Text)
  /-- A list, whether a blank line stands before it, and whether blank lines stand inside it. -/
  | list (entries : List ListEntry) (spacedBefore spacedInside : Bool)
deriving Repr, DecidableEq, Inhabited

/-- A word in brackets and the address it stands for. -/
structure LinkDefinition where
  word : Text
  address : Text
deriving Repr, DecidableEq, Inhabited

/-! ### Lines -/

/-- Whether a line starts with a blank or a tab. -/
def isIndented (line : Text) : Bool :=
  line.head?.any fun b => b == 0x20 || b == 0x09

/-- The blanks and tabs that a line starts with. -/
def indentOf (line : Text) : Text :=
  line.takeWhile fun b => b == 0x20 || b == 0x09

/-- The longest text that both begin with. -/
private def shared : Text → Text → Text
  | a :: as, b :: bs => if a == b then a :: shared as bs else []
  | _, _ => []

/-- Lines without empty ones at either end. -/
private def trimLines (lines : List Text) : List Text :=
  ((lines.dropWhile List.isEmpty).reverse.dropWhile List.isEmpty).reverse

/-- Lines without the indentation that they share; blank lines become empty. -/
def unindent (lines : List Text) : List Text :=
  match trimLines lines with
  | [] => []
  | first :: rest =>
    let common := rest.foldl (fun common line =>
      if line.isEmpty then common else shared common (indentOf line)) (indentOf first)
    trimLines ((first :: rest).map fun line =>
      let line := Text.dropPrefix common line
      if Text.isBlank line then [] else line)

/-- The number and the rest of a line that starts with a list mark. -/
def listMark? (line : Text) : Option (Text × Text) :=
  let line := Text.trimSpace line
  let marked? : Option (Text × Text) := match line with
    | [] => none
    | b :: rest =>
      let c := (Rune.decode b rest).char
      if c == '\u2022' || c == '*' || c == '+' || c == '-' then
        some ([], line.drop (Rune.decode b rest).width)
      else
        let number := line.takeWhile Text.isDecimal
        match number.isEmpty, line.drop number.length with
        | false, mark :: rest => if mark == 0x2E || mark == 0x29 then some (number, rest) else none
        | _, _ => none
  match marked? with
  | some (number, rest) =>
    if isIndented rest && !Text.isBlank rest then some (number, rest) else none
  | none => none

def isEntry (line : Text) : Bool :=
  (listMark? line).isSome

def isHeading (line : Text) : Bool :=
  match line with
  | 0x23 :: b :: _ => (b == 0x20 || b == 0x09) && Text.trimSpace line != [0x23]
  | _ => false

/-- Whether every occurrence of a byte is followed as it should be. -/
private def followed (b : UInt8) (fits : Text → Bool) : Text → Bool
  | [] => true
  | c :: rest => (c != b || fits rest) && followed b fits rest

/-- Whether a line reads like a heading: it starts with an upper-case letter, ends with a letter or digit
and has no punctuation but commas, parentheses, the mark of the possessive and points inside words. -/
def readsAsHeading (line : Text) : Bool :=
  let line := Text.trimSpace line
  let cs := Text.chars line
  let startsHigh := cs.head?.any fun c => Unicode.isLetter c && Unicode.isUpper c
  let endsInWord := cs.getLast?.any fun c => Unicode.isLetter c || Unicode.isDigit c
  let barred := ";:!?+*/=[]\x7b\x7d_^\u00b0&\u00a7~%#@<\">\\".toList
  startsHigh && endsInWord && !cs.any barred.contains
    && followed 0x27 (fun rest => rest == [0x73] || [0x73, 0x20].isPrefixOf rest) line
    && followed 0x2E (fun rest => !rest.isEmpty && rest.head? != some 0x20) line

/-! ### Spans -/

inductive SpanKind where
  | list
  | code
  | heading
  | plainHeading
  | paragraph
deriving Repr, DecidableEq, Inhabited

/-- Lines, the first included and the last not, that make one block. -/
structure Span where
  start : Nat
  stop : Nat
  kind : SpanKind
deriving Repr, DecidableEq, Inhabited

section

variable (lines : Array Text)

private def lineAt (i : Nat) : Text :=
  lines.getD i []

/-- The first of at most `steps` indices from `i` on at which a condition fails. -/
private def runEnd (holds : Nat → Bool) : (steps i : Nat) → Nat
  | 0, i => i
  | steps + 1, i => if i < lines.size && holds i then runEnd holds steps (i + 1) else i

/-- Step back over lines in front of `stop`, but not before `start`. -/
private def stepBack (holds : Text → Bool) (start : Nat) : (stop : Nat) → Nat
  | 0 => 0
  | stop + 1 =>
    if start < stop + 1 && holds (lineAt lines stop) then stepBack holds start stop else stop + 1

/-- Where indented lines end. Blank lines do not end them, lines before `forced` count as indented, and the
entries of a list that should have been indented belong to it up to the first blank line. -/
private def indentedEnd (forced : Nat) : (steps i : Nat) → (takesEntries : Bool) → Nat
  | 0, i, _ => i
  | steps + 1, i, takesEntries =>
    let line := lineAt lines i
    if i < lines.size
        && (line.isEmpty || i < forced || isIndented line || (takesEntries && isEntry line)) then
      indentedEnd forced steps (i + 1) (takesEntries && !line.isEmpty)
    else i

/-- The span of indented lines that starts at a line. A closing brace right behind them belongs to
them. -/
private def indentedSpan (forced start : Nat) : Span :=
  let isList := isEntry (lineAt lines start)
  let stop := indentedEnd lines forced lines.size (start + 1) (isList && start < forced)
  let stop := stepBack lines List.isEmpty start stop
  let closes := stop < lines.size && (lineAt lines stop).head? == some 0x7D
  ⟨start, if closes then stop + 1 else stop, if isList then .list else .code⟩

/-- Where text that is not indented ends, and up to where lines count as indented: when indented lines that
are no list follow at once, a last line that opens a brace, and entries of a list at the end, belong to
them. -/
private def textEnd (forced start : Nat) : Nat × Nat :=
  let stop := runEnd lines (fun i => !(lineAt lines i).isEmpty && !isIndented (lineAt lines i))
    lines.size (start + 1)
  let next := lineAt lines stop
  let last := lineAt lines (stop - 1)
  if next.isEmpty || isEntry next then (stop, forced)
  else if isEntry last then (stepBack lines isEntry start (stop - 1), stop)
  else if last.getLast? == some 0x7B || last.getLast? == some 0x5C then (stop - 1, stop)
  else (stop, forced)

/-- The kind of text that is not indented. An unmarked heading stands between empty lines, and text that
is not indented follows it. -/
private def textKind (start stop : Nat) : SpanKind :=
  if stop != start + 1 then .paragraph
  else if isHeading (lineAt lines start) then .heading
  else if 0 < start && (lineAt lines (start - 1)).isEmpty && start + 2 < lines.size
      && (lineAt lines (start + 1)).isEmpty && !isIndented (lineAt lines (start + 2))
      && readsAsHeading (lineAt lines start) then .plainHeading
  else .paragraph

/-- The spans from a line on, in at most `steps` steps. -/
private def spansFrom : (steps i forced : Nat) → List Span
  | 0, _, _ => []
  | steps + 1, i, forced =>
    let start := runEnd lines (fun i => (lineAt lines i).isEmpty) lines.size i
    if start ≥ lines.size then []
    else if start < forced || isIndented (lineAt lines start) then
      let span := indentedSpan lines forced start
      span :: spansFrom steps span.stop forced
    else
      let (stop, forced) := textEnd lines forced start
      if stop == start && forced > start then spansFrom steps start forced
      else ⟨start, stop, textKind lines start stop⟩ :: spansFrom steps stop forced

def spans : List Span :=
  spansFrom lines (2 * lines.size + 1) 0 0

end

/-! ### Blocks -/

def linkDefinition? (line : Text) : Option LinkDefinition :=
  let rec find (word : Text) : Text → Option LinkDefinition
    | 0x5D :: 0x3A :: rest =>
      match rest with
      | blank :: after =>
        let address := Text.trimSpace after
        let scheme := address.takeWhile (· != 0x3A)
        if after.isEmpty || (blank != 0x20 && blank != 0x09) then none
        else if schemes.contains scheme && (Text.ofString "://").isPrefixOf (address.drop scheme.length)
        then some ⟨word.reverse, address⟩
        else none
      | [] => none
    | b :: rest => find (b :: word) rest
    | [] => none
  match line with
  | 0x5B :: rest => find [] rest
  | _ => none

/-- The links that lines define, if each line defines one. -/
def linkDefinitions? (lines : List Text) : Option (List LinkDefinition) :=
  lines.mapM linkDefinition?

/-- A list while its lines are read. -/
private structure ListReading where
  /-- The entries, the latest first. -/
  entries : List ListEntry := []
  /-- The lines of the paragraph being read, the latest first. -/
  paragraph : List Text := []
  spaced : Bool := false
  links : List LinkDefinition := []

private def ListReading.endParagraph (r : ListReading) : ListReading :=
  let lines := r.paragraph.reverse
  let r := { r with paragraph := [] }
  match r.entries with
  | [] => r
  | entry :: others =>
    match linkDefinitions? lines with
    | some links => { r with links := r.links ++ links }
    | none =>
      { r with entries := { entry with paragraphs := entry.paragraphs ++ [Text.unlines lines] } :: others }

/-- Read a line of a list. A mark of the other kind than the first one starts no entry. -/
private def ListReading.line (isNumbered : Bool) (r : ListReading) (line : Text) : ListReading :=
  let (r, line) := match listMark? line with
    | some (number, rest) =>
      if number.isEmpty != isNumbered then
        let r := r.endParagraph
        ({ r with entries := { number } :: r.entries }, rest)
      else (r, line)
    | none => (r, line)
  let line := Text.trimSpace line
  if line.isEmpty then { r.endParagraph with spaced := true }
  else { r with paragraph := line :: r.paragraph }

/-- The list that lines make, and the links that it defines. -/
def readList (lines : List Text) (spacedBefore : Bool) : Block × List LinkDefinition :=
  let isNumbered := match lines.head?.bind listMark? with
    | some (number, _) => !number.isEmpty
    | none => false
  let r := (lines.foldl (ListReading.line isNumbered) {}).endParagraph
  let entries := r.entries.reverse
  let spacedInside := r.spaced || entries.any fun e => e.paragraphs.length != 1
  (.list entries (spacedBefore || spacedInside) spacedInside, r.links)

/-- The block of a span, if it is not all link definitions, and the links that it defines. `previous` is
where the span before ends. -/
def readSpan (lines : Array Text) (previous : Nat) (s : Span) : Option Block × List LinkDefinition :=
  let inside := (lines.extract s.start s.stop).toList
  let first := inside.headD []
  match s.kind with
  | .list =>
    let (block, links) := readList inside (previous < s.start)
    (some block, links)
  | .code => (some (.code (unindent inside)), [])
  | .heading => (some (.heading (Text.trimSpace (first.drop 1))), [])
  | .plainHeading => (some (.heading (Text.trimSpace first)), [])
  | .paragraph =>
    match linkDefinitions? inside with
    | some links => (none, links)
    | none => (some (.paragraph (Text.unlines inside)), [])

private def readSpans (lines : Array Text) : (previous : Nat) → List Span →
    List Block × List LinkDefinition
  | _, [] => ([], [])
  | previous, s :: rest =>
    let (block, links) := readSpan lines previous s
    let (blocks, more) := readSpans lines s.stop rest
    (block.toList ++ blocks, links ++ more)

/-- The blocks of a documentation text and the links that it defines. -/
def read (lines : List Text) : List Block × List LinkDefinition :=
  let lines := (unindent lines).toArray
  readSpans lines 0 (spans lines)

end SystemLoops.Source.Doc
