import SystemLoops.Source.Lexeme

namespace SystemLoops.Source

def carriageReturn : UInt8 := 0x0D

/-- Drop the carriage returns of a comment or raw string. In a block comment a carriage return
between a star and a slash stays, lest the two become a closing mark. -/
def dropReturns (block : Bool) (t : Text) : Text :=
  let rec go (kept : Text) (count : Nat) : Text → Text
    | [] => kept.reverse
    | b :: rest =>
      if b != carriageReturn || (block && count > 2 && kept.head? == some 0x2A
          && rest.head? == some 0x2F) then
        go (b :: kept) (count + 1) rest
      else go kept count rest
  go [] 0 t

/-- A line comment without the carriage return of its line end. -/
private def dropLineEnd (t : Text) : Text :=
  if t[1]? == some 0x2F && t.getLast? == some carriageReturn then t.dropLast else t

/-- The literal text of a token that spans `raw`. -/
def literalOf (tok : Tok) (raw : Text) : Text :=
  match tok with
  | .comment => dropReturns (raw[1]? == some 0x2A) (dropLineEnd raw)
  | .string => if raw.head? == some backquote then dropReturns false raw else raw
  | .ident | .int | .float | .imag | .char => raw
  | .semicolon => raw
  | .illegal => raw
  | tok => if tok.isKeyword then raw else []

/-- The semicolon that a line feed stands for. -/
def lineEndToken (offset : Nat) : Token :=
  { tok := .semicolon, offset, width := 1, literal := [Text.newline] }

/-- The tokens of a text after its first `skip` bytes. `offset` is where the text starts, and
`endsLine` whether the token before may end a statement. -/
def tokensFrom : (skip offset : Nat) → (endsLine : Bool) → Text → List Token
  | _, offset, endsLine, [] =>
    let last : Token := { tok := .eof, offset, width := 0, literal := [] }
    if endsLine then [{ lineEndToken offset with width := 0 }, last] else [last]
  | skip + 1, offset, endsLine, _ :: rest => tokensFrom skip (offset + 1) endsLine rest
  | 0, offset, endsLine, b :: rest =>
    if b == 0x20 || b == 0x09 || b == carriageReturn then tokensFrom 0 (offset + 1) endsLine rest
    else if b == Text.newline then
      if endsLine then lineEndToken offset :: tokensFrom 0 (offset + 1) false rest
      else tokensFrom 0 (offset + 1) false rest
    else
      let lx := lexeme b rest
      let raw := b :: rest.take (lx.width - 1)
      let token : Token :=
        { tok := lx.tok, offset, width := lx.width, literal := literalOf lx.tok raw
          flawed := lx.flawed }
      let next := if lx.tok == .comment || lx.tok == .illegal then endsLine else lx.endsLine
      match lx.tok == .comment && endsLine, raw.findIdx? (· == Text.newline) with
      | true, some inside =>
        token :: lineEndToken (offset + inside)
          :: tokensFrom (lx.width - 1) (offset + 1) false rest
      | _, _ => token :: tokensFrom (lx.width - 1) (offset + 1) next rest

def byteOrderMark : Text := [0xEF, 0xBB, 0xBF]

/-- Whether a text is marked as being in sixteen-bit units. -/
def isUtf16 (t : Text) : Bool :=
  [0xFF, 0xFE].isPrefixOf t || [0xFE, 0xFF].isPrefixOf t

/-- The tokens of a text, comments included, the end of the text last. A leading byte order mark is
skipped; a text in sixteen-bit units is one illegal token. -/
def tokens (t : Text) : List Token :=
  if isUtf16 t then
    [{ tok := .illegal, offset := 0, width := t.length, literal := t, flawed := true },
     { tok := .eof, offset := t.length, width := 0, literal := [] }]
  else if byteOrderMark.isPrefixOf t then tokensFrom 3 0 false t
  else tokensFrom 0 0 false t

def codeTokens (t : Text) : List Token :=
  (tokens t).filter fun token => token.tok != .comment

/-- The identifiers of a text, in order of appearance. -/
def identifiers (t : Text) : List Text :=
  (tokens t).filterMap fun token => if token.tok == .ident then some token.literal else none

/-- Whether a text holds a character that no source may hold: a zero byte, an ill-formed byte, or a
byte order mark after the start. -/
def hasForbiddenChar (t : Text) : Bool :=
  t.contains 0 || !t.isValid || Text.occurs byteOrderMark (t.drop 1)

end SystemLoops.Source
