import Std.Data.HashMap
import SystemLoops.Source.Columns
import SystemLoops.Source.Constraint
import SystemLoops.Source.LineMap
import SystemLoops.Source.Print.Comment

/-!
Writing tokens, white space and comments. White space waits until the next token: then the comments that
stand before the token in the source are written, and take of the waiting white space what suits them.
Line breaks follow the lines of the source, with at most one blank line in a row.
-/

namespace SystemLoops.Source

/-- White space to be written. -/
inductive White where
  | none
  | blank
  | column
  | newline
  | formFeed
  | indent
  | unindent
deriving DecidableEq, Repr, Inhabited

namespace White

def breaksLine : White → Bool
  | .newline | .formFeed => true
  | _ => false

/-- The byte of white space; changes of indentation have none. -/
def byte? : White → Option UInt8
  | .blank => some 0x20
  | .column => some Columns.softTab
  | .newline => some Text.newline
  | .formFeed => some Columns.formFeed
  | _ => Option.none

end White

/-- A place in the source, or in the output, by offset, line and column. Line zero is no place. -/
structure Spot where
  offset : Nat
  line : Nat
  column : Nat
deriving DecidableEq, Repr, Inhabited

/-- What does not change while a tree is printed. -/
structure PrintSettings where
  lines : LineMap
  /-- Numbers are written in one way. -/
  normalizes : Bool

structure PrintState where
  output : Array UInt8 := #[]
  indent : Nat := 0
  /-- How many composite values are open. -/
  level : Nat := 0
  /-- No blank is added after a block comment. -/
  noExtraBlank : Bool := false
  /-- No line break is added after a block comment. -/
  noExtraBreak : Bool := false
  /-- The columns end at the end of the line. -/
  endsColumns : Bool := false
  /-- A line break here would end the statement. -/
  impliesEnd : Bool := false
  /-- The last token, or `illegal` after white space. -/
  lastTok : Tok := .illegal
  /-- The opening parenthesis or bracket right before the next token, or `illegal`. -/
  opened : Tok := .illegal
  /-- White space that waits. -/
  waiting : List White := []
  /-- The place in the source of what is written next. -/
  pos : Spot := ⟨0, 1, 1⟩
  outLine : Nat := 1
  outColumn : Nat := 1
  /-- The place in the source behind what was written last. -/
  last : Spot := ⟨0, 0, 0⟩
  /-- The lines of the output on which the entries being printed start, the innermost first. -/
  startLines : List Nat := []
  /-- The next token sets the innermost start line. -/
  marksStart : Bool := false
  /-- The comments to come. -/
  comments : List CommentGroup := []
  /-- Where in the output build constraints were written. -/
  constraints : List Nat := []
  /-- Where in the output build constraints of the older form were written. -/
  clauseLines : List Nat := []
  /-- The sizes of pieces that were measured, by the limit and the places of the pieces. -/
  sizes : Std.HashMap (Nat × Pos × Pos) Nat := {}

abbrev Print := ReaderT PrintSettings (StateM PrintState)

namespace Print

/-- More than any size or place. -/
def infinity : Nat := Nat.pow 2 30

/-- The most line breaks in a row. -/
def maxBreaks : Nat := 2

/-- The place of a position. -/
def spotOf (p : Pos) : Print Spot := do
  if p == 0 then return ⟨0, 0, 0⟩
  let m := (← read).lines
  return ⟨p - 1, m.rawLine (p - 1), m.rawColumn (p - 1)⟩

/-- The line of a position, zero for none. -/
def lineOf (p : Pos) : Print Nat := do
  if p == 0 then return 0
  return (← read).lines.rawLine (p - 1)

/-- Say where the next item stands in the source. -/
def setPos (p : Pos) : Print Unit := do
  if p != 0 then
    let spot ← spotOf p
    modify fun s => { s with pos := spot }

/-- The line in the source of what is written next. -/
def currentLine : Print Nat := do
  return (← get).pos.line

/-! ### Bytes -/

private def writeIndent : Print Unit :=
  modify fun s =>
    { s with
      output := s.output ++ Array.replicate s.indent Columns.hardTab
      pos := { s.pos with offset := s.pos.offset + s.indent, column := s.pos.column + s.indent }
      outColumn := s.outColumn + s.indent }

/-- Write a byte of white space `n` times. Once the columns of a line have ended, tabs are blanks. -/
def writeByte (b : UInt8) (n : Nat) : Print Unit := do
  let s ← get
  let isBreak := b == Text.newline || b == Columns.formFeed
  let isTab := b == Columns.hardTab || b == Columns.softTab
  let b := if s.endsColumns then
      if isTab then 0x20 else if isBreak then Columns.formFeed else b
    else b
  if s.endsColumns && isBreak then modify fun s => { s with endsColumns := false }
  if s.outColumn == 1 then writeIndent
  modify fun s =>
    let s := { s with
      output := s.output ++ Array.replicate n b
      pos := { s.pos with offset := s.pos.offset + n } }
    if isBreak then
      { s with
        pos := { s.pos with line := s.pos.line + n, column := 1 }
        outLine := s.outLine + n, outColumn := 1 }
    else
      { s with
        pos := { s.pos with column := s.pos.column + n }
        outColumn := s.outColumn + n }

/-- Write a text that stands at a place in the source. A text that is kept as it is stands between
escapes, and a line break in it ends the columns of its line. -/
def writeText (spot : Spot) (t : Text) (kept : Bool) : Print Unit := do
  if (← get).outColumn == 1 then writeIndent
  if spot.line > 0 then modify fun s => { s with pos := spot }
  let isBreak := fun b => b == Text.newline || b == Columns.formFeed
  let breaks := t.countP isBreak
  let tail := (t.reverse.takeWhile fun b => !isBreak b).length + 1
  let mark : Array UInt8 := if kept then #[Columns.escapeMark] else #[]
  modify fun s =>
    let pos : Spot := { s.pos with offset := s.pos.offset + t.length }
    let s := { s with output := s.output ++ mark ++ t.toArray ++ mark }
    let s :=
      if breaks > 0 then
        { s with
          endsColumns := true
          pos := { pos with line := pos.line + breaks, column := tail }
          outLine := s.outLine + breaks, outColumn := tail }
      else
        { s with
          pos := { pos with column := pos.column + t.length }
          outColumn := s.outColumn + t.length }
    { s with last := s.pos }

/-! ### Waiting white space -/

/-- Let line breaks come after the ends of indentation that follow them; such a break starts a new
section. `held` is a break that is not placed yet. -/
private def settle : (held : Option White) → List White → List White
  | held, [] => held.toList
  | some _, .unindent :: rest => .unindent :: settle (some .formFeed) rest
  | held, w :: rest =>
    held.toList ++ if w.breaksLine then settle (some w) rest else w :: settle none rest

private def writeWhite (w : White) : Print Unit :=
  match w with
  | .indent => modify fun s => { s with indent := s.indent + 1 }
  | .unindent => modify fun s => { s with indent := s.indent - 1 }
  | w => match w.byte? with
    | some b => writeByte b 1
    | none => pure ()

/-- Write the first `n` entries of the waiting white space. -/
def writeWaiting (n : Nat) : Print Unit := do
  let waiting := (← get).waiting
  modify fun s => { s with waiting := waiting.drop n }
  (settle none (waiting.take n)).forM writeWhite

def writeAllWaiting : Print Unit := do
  writeWaiting (← get).waiting.length

/-! ### Comments -/

private def hasBreak (g : CommentGroup) : Print Bool := do
  let first ← lineOf (CommentGroup.start g)
  g.anyM fun c => do
    return (← lineOf c.pos) != first || c.isLine || c.text.contains Text.newline

/-- Whether the next comments stand before a place and may be written without ending a statement. -/
def commentBefore (offset : Nat) : Print Bool := do
  let s ← get
  match s.comments with
  | [] => return false
  | g :: _ =>
    if (CommentGroup.start g) - 1 < offset then
      if s.impliesEnd then return !(← hasBreak g) else return true
    else return false

/-- The size of comments that stand before a place, from the front of a list. -/
private def sizeBefore (offset : Nat) (impliesEnd : Bool) : List CommentGroup → Print Nat
  | [] => return 0
  | g :: rest => do
    let breaks ← hasBreak g
    if (CommentGroup.start g) - 1 < offset && !(impliesEnd && breaks) then
      return total (g.map fun c => c.text.length) + (← sizeBefore offset impliesEnd rest)
    else return 0

def commentSizeBefore (offset : Nat) : Print Nat := do
  let s ← get
  sizeBefore offset s.impliesEnd s.comments

/-- What the white space in front of a comment on the same line comes to: blanks go, columns and
indentation stay up to the first entry of another kind. The result is the new white space, how much of it
to write, and whether there was a column. -/
private def besideComment : List White → List White × Option Nat × Bool
  | [] => ([], none, false)
  | w :: rest =>
    match w with
    | .blank =>
      let (ws, n, sep) := besideComment rest
      (.none :: ws, n.map (· + 1), sep)
    | .column =>
      let (ws, n, _) := besideComment rest
      (w :: ws, n.map (· + 1), true)
    | .indent =>
      let (ws, n, sep) := besideComment rest
      (w :: ws, n.map (· + 1), sep)
    | _ => (w :: rest, some 0, false)

/-- What the white space in front of a comment on another line comes to: blanks and columns go, changes of
indentation are applied up to the first line break, which goes as well. An end of indentation is applied
only when another one follows or when the comment lines up with a token that closes no block. The result
is the new white space, how much of it to write, and whether a line break went. -/
private def aboveComment (applies : Bool) : List White → List White × Option Nat × Bool
  | [] => ([], none, false)
  | w :: rest =>
    match w with
    | .blank | .column =>
      let (ws, n, dropped) := aboveComment applies rest
      (.none :: ws, n.map (· + 1), dropped)
    | .indent =>
      let (ws, n, dropped) := aboveComment applies rest
      (w :: ws, n.map (· + 1), dropped)
    | .unindent =>
      if rest.head? == some .unindent || applies then
        let (ws, n, dropped) := aboveComment applies rest
        (w :: ws, n.map (· + 1), dropped)
      else (w :: rest, some 0, false)
    | .newline | .formFeed => (.none :: rest, some 0, true)
    | .none => (w :: rest, some 0, false)

/-- Write the white space before a comment. `previous` is the comment before it in the same run, `next` and
`tok` are the token after all comments. -/
private def writeBeforeComment (spot next : Spot) (previous : Option Comment) (tok : Tok) :
    Print Unit := do
  let s ← get
  if s.output.isEmpty then return
  let afterLine := match previous with
    | some c => c.isLine
    | none => false
  if spot.line == s.last.line && !afterLine then
    let separated ←
      if previous.isNone then do
        let (waiting, n, separated) := besideComment s.waiting
        modify fun s => { s with waiting }
        writeWaiting (n.getD 0)
        pure separated
      else pure false
    if !separated then writeByte (if spot.line == next.line then 0x20 else Columns.hardTab) 1
  else
    let (waiting, n, dropped) := aboveComment (tok != .rbrace && spot.column == next.column) s.waiting
    modify fun s => { s with waiting }
    writeWaiting (n.getD 0)
    let s ← get
    let breaks := if s.last.line > 0 then spot.line - s.last.line else 0
    let breaks := if s.indent == 0 && dropped && previous.isNone then breaks + 1 else breaks
    let breaks := if breaks == 0 && afterLine then 1 else breaks
    if breaks > 0 then writeByte Columns.formFeed (min breaks maxBreaks)

private def writeLines (spot : Spot) : (first : Bool) → List Text → Print Unit
  | _, [] => pure ()
  | first, line :: rest => do
    if !first then writeByte Columns.formFeed 1
    let here := (← get).pos
    let spot := if first then spot else here
    if !line.isEmpty then writeText spot (Text.trimSpaceEnd line) true
    writeLines spot false rest

/-- Note where a build constraint is about to be written. -/
private def noteConstraint (text : Text) : Print Unit :=
  modify fun s =>
    if (Constraint.expression? text).isSome then
      { s with constraints := s.constraints ++ [s.output.size] }
    else if (Constraint.clauses? text).isSome then
      { s with clauseLines := s.clauseLines ++ [s.output.size] }
    else s

/-- Write the text of a comment. A comment that renumbers lines stays at the front of its line. -/
private def writeComment (c : Comment) : Print Unit := do
  let spot ← spotOf c.pos
  let indent := (← get).indent
  let renumbers := (Text.ofString "//line ").isPrefixOf c.text && spot.column == 1
  if renumbers then modify fun s => { s with indent := 0 }
  if c.isLine then
    noteConstraint c.text
    writeText spot (Text.trimSpaceEnd c.text) true
  else
    let lines := Text.lines c.text
    let lines := match lines with
      | first :: rest =>
        if spot.column == 1 && indent > 0 then
          first :: rest.map fun line => 0x20 :: 0x20 :: 0x20 :: line
        else lines
      | [] => []
    writeLines spot true (Comment.stripLines lines)
  if renumbers then modify fun s => { s with indent }

/-- What the white space after comments comes to: blanks and columns go, and one line break stays if it is
needed. The result is the new white space, whether the break is still missing, whether one stayed, and
whether a form feed went. -/
private def afterComments (needsBreak : Bool) : List White → List White × Bool × Bool × Bool
  | [] => ([], needsBreak, false, false)
  | w :: rest =>
    match w with
    | .blank | .column =>
      let (ws, missing, wrote, dropped) := afterComments needsBreak rest
      (.none :: ws, missing, wrote, dropped)
    | .newline | .formFeed =>
      if needsBreak then
        let (ws, missing, _, dropped) := afterComments false rest
        (w :: ws, missing, true, dropped)
      else
        let (ws, missing, wrote, dropped) := afterComments false rest
        (.none :: ws, missing, wrote, dropped || w == .formFeed)
    | _ =>
      let (ws, missing, wrote, dropped) := afterComments needsBreak rest
      (w :: ws, missing, wrote, dropped)

/-- Write the white space after comments. The result tells whether a line break was written and whether a
form feed was dropped. -/
private def writeAfterComments (needsBreak : Bool) : Print (Bool × Bool) := do
  let (waiting, missing, wrote, dropped) := afterComments needsBreak (← get).waiting
  modify fun s => { s with waiting }
  writeAllWaiting
  if missing then writeByte Text.newline 1
  return (wrote || missing, dropped)

/-- The tokens that a declaration, or the file, starts with. Imports have no documentation. -/
def opensDeclaration (tok : Tok) : Bool :=
  [.kwPackage, .kwConst, .kwType, .kwVar, .kwFunc].contains tok

/-- What writing the comments before a token came to: the last comment, if any, or that the documentation
of the token had no text and went. -/
private inductive Written where
  | upTo (last : Option Comment)
  | removed

/-- Write a group of comments before a token. Comments right above a declaration are its documentation. -/
private def writeGroup (next : Spot) (tok : Tok) (previous : Option Comment) (g : CommentGroup) :
    Print Written := do
  let start ← spotOf (CommentGroup.start g)
  let behind ← spotOf (CommentGroup.finish g + 1)
  let documents := opensDeclaration tok && start.column == 1 && behind == next
  let shown := if documents then Comment.tidyDocumentation g else g
  if shown.isEmpty then
    writeBeforeComment start next previous tok
    modify fun s => { s with pos := next, last := next }
    return .removed
  let last ← shown.foldlM (fun (previous : Option Comment) c => do
    writeBeforeComment (← spotOf c.pos) next previous tok
    writeComment c
    return some c) previous
  if documents then
    let finish ← spotOf (CommentGroup.finish g)
    modify fun s => { s with pos := finish, last := finish }
    return .upTo g.getLast?
  return .upTo last

/-- Write all comments before a token, at most `n` groups. -/
private def writeGroups (next : Spot) (tok : Tok) : (n : Nat) → Option Comment → Print Written
  | 0, previous => return .upTo previous
  | n + 1, previous => do
    if ← commentBefore next.offset then
      match (← get).comments with
      | g :: rest =>
        let written ← writeGroup next tok previous g
        modify fun s => { s with comments := rest }
        match written with
        | .upTo last => writeGroups next tok n last
        | .removed => return .removed
      | [] => return .upTo previous
    else return .upTo previous

/-- Write the comments before a token among the waiting white space. A block comment on the line of the
token is set off from it, and a line comment ends its line. -/
private def intersperse (next : Spot) (tok : Tok) : Print (Bool × Bool) := do
  match ← writeGroups next tok (← get).comments.length none with
  | .removed => writeAfterComments false
  | .upTo none => return (false, false)
  | .upTo (some last) =>
    let s ← get
    let setOff := !s.noExtraBlank && !last.isLine && (← lineOf last.pos) == next.line
      && tok != .comma
      && (tok != .rparen || s.opened == .lparen)
      && (tok != .rbrack || s.opened == .lbrack)
    let breaks := setOff && s.waiting.any White.breaksLine && !s.noExtraBreak && s.level == 0
    if setOff && !breaks then writeByte 0x20 1
    let needsBreak := breaks || last.isLine || tok == .eof || (tok == .rbrace && !s.noExtraBreak)
    writeAfterComments needsBreak

/-- Write what comes before a token: comments and white space. -/
def flush (next : Spot) (tok : Tok) : Print (Bool × Bool) := do
  if ← commentBefore next.offset then intersperse next tok
  else
    writeAllWaiting
    return (false, false)

/-! ### Items -/

/-- Note which opening mark, if any, the last item was. -/
private def noteOpening : Print Unit :=
  modify fun s => match s.lastTok with
    | .illegal => s
    | .lparen => { s with opened := .lparen }
    | .lbrack => { s with opened := .lbrack }
    | _ => { s with opened := .illegal }

/-- The most white space that waits. -/
def maxWaiting : Nat := 16

/-- Add white space. -/
def white (w : White) : Print Unit := do
  noteOpening
  if w == .none then return
  if (← get).waiting.length == maxWaiting then writeAllWaiting
  modify fun s =>
    { s with
      waiting := s.waiting ++ [w]
      impliesEnd := s.impliesEnd && !w.breaksLine
      lastTok := .illegal }

/-- Write an item. `ends` says that a line break after it ends the statement. -/
private def item (t : Text) (kept ends : Bool) (tok : Tok) : Print Unit := do
  modify fun s => { s with lastTok := tok }
  let next := (← get).pos
  let (wroteBreak, droppedFeed) ← flush next tok
  let s ← get
  let breaks := if s.impliesEnd then 0 else min (next.line - s.pos.line) maxBreaks
  let breaks := if wroteBreak && breaks == maxBreaks then maxBreaks - 1 else breaks
  if breaks > 0 then writeByte (if droppedFeed then Columns.formFeed else Text.newline) breaks
  modify fun s =>
    if s.marksStart then
      { s with marksStart := false, startLines := s.outLine :: s.startLines.tail }
    else s
  writeText next t kept
  modify fun s => { s with impliesEnd := ends && breaks == 0 }

/-- Whether a token and the first byte of the next one would make another token. -/
private def combines (tok : Tok) (b : UInt8) : Bool :=
  match tok with
  | .int => b == 0x2E
  | .add => b == 0x2B
  | .sub => b == 0x2D
  | .quo => b == 0x2A
  | .lss => b == 0x2D || b == 0x3C
  | .and => b == 0x26 || b == 0x5E
  | _ => false

/-- Whether a line break after a token ends the statement. -/
private def endsStatement (tok : Tok) : Bool :=
  [.kwBreak, .kwContinue, .kwFallthrough, .kwReturn, .inc, .dec, .rparen, .rbrack, .rbrace].contains tok

/-- Write an operator, a mark or a keyword. -/
def token (tok : Tok) : Print Unit := do
  noteOpening
  let t := Text.ofString tok.spelling
  if combines (← get).lastTok (t.headD 0) then modify fun s => { s with waiting := [.blank] }
  item t false (endsStatement tok) tok

def name (t : Text) : Print Unit := do
  noteOpening
  item t false true .ident

def literal (tok : Tok) (t : Text) : Print Unit := do
  noteOpening
  item t true true tok

/-- Turn the two rules about block comments over. -/
def toggle (extraBlank extraBreak : Bool) : Print Unit := do
  noteOpening
  modify fun s =>
    { s with noExtraBlank := s.noExtraBlank != extraBlank, noExtraBreak := s.noExtraBreak != extraBreak }

/-- Break the line as often as the source does, but at least `least` times. `before` is white space to
write first if there is a break, and a new section starts with a form feed. The result is the number of
breaks, where a new section counts for one more. -/
def lineBreak (line least : Nat) (before : White) (newSection : Bool) : Print Nat := do
  let n := max (min (line - (← get).pos.line) maxBreaks) least
  if n == 0 then return 0
  white before
  if newSection then
    white .formFeed
    for _ in [1:n] do white .newline
    return n + 1
  else
    for _ in [0:n] do white .newline
    return n

/-- Print an entry of a list and tell on which line of the output it starts. -/
def startingAt (entry : Print Unit) : Print Nat := do
  modify fun s => { s with startLines := 0 :: s.startLines, marksStart := true }
  entry
  let s ← get
  set { s with startLines := s.startLines.tail }
  return s.startLines.headD 0

def linesSince (line : Nat) : Print Nat := do
  return (← get).outLine - line

/-- The bytes that a piece takes when it is printed alone, or more than `limit` when it does not fit on a
line of that size. A form feed in a literal counts as a line break. The piece is known by its places and
measured once. -/
def measure (limit : Nat) (start finish : Pos) (piece : Print Unit) : Print Nat := do
  let key := (limit, start, finish)
  let known := (← get).sizes
  match known[key]? with
  | some size => return size
  | none =>
    let settings ← read
    let close : Print Unit := do
      modify fun s => { s with impliesEnd := false }
      let _ ← flush ⟨infinity, infinity, 0⟩ .eof
    let (_, s) :=
      ((do piece; close : Print Unit).run { settings with normalizes := false }).run { sizes := known }
    let text := Columns.trim s.output.toList
    let breaks := text.any fun b => b == Text.newline || b == Columns.formFeed
    let size := if breaks || text.length > limit then limit + 1 else text.length
    modify fun state => { state with sizes := s.sizes.insert key size }
    return size

end Print

end SystemLoops.Source
