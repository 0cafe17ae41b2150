import SystemLoops.Format.Yaml.Fold

/-!
The tokens of a YAML text. Indentation shows as tokens that open and close blocks. Whether a scalar is the
key of a mapping is known only at the colon after it, so a place in front of it is remembered, and the
tokens that announce the key are put there when the colon comes.
-/

namespace SystemLoops.Format.Yaml

/-- A token of a YAML text. -/
inductive Token where
  | version (major minor : Nat)
  | handle (name uri : List Char)
  | documentStart
  | documentEnd
  | openSequence
  | openMapping
  | closeBlock
  | openFlowSequence
  | closeFlowSequence
  | openFlowMapping
  | closeFlowMapping
  | entry
  | item
  | key
  | value
  | alias (name : List Char)
  | anchor (name : List Char)
  | tag (handle suffix : List Char)
  | scalar (plain : Bool) (content : List Char)
  | streamEnd
  /-- No token can be read here. -/
  | invalid
deriving Repr, DecidableEq, Inhabited

/-- A place where the key of a mapping may have begun. -/
structure PendingKey where
  /-- Whether nothing but a key can stand there. -/
  required : Bool
  /-- The number of tokens before it. -/
  position : Nat
  mark : Mark
deriving Repr, Inhabited

/-- A text while its tokens are read. -/
structure Scanner where
  rest : List Char
  mark : Mark := {}
  tokens : Array Token := #[]
  /-- The columns of the open blocks, innermost first. -/
  blocks : List Nat := []
  /-- Whether a key may begin here. -/
  keyAllowed : Bool := true
  pending : Option PendingKey := none
  /-- The pending keys outside each open flow collection, innermost first. -/
  outer : List (Option PendingKey) := []
  finished : Bool := false
deriving Repr, Inhabited

namespace Scanner

/-- Whether a flow collection is open. -/
def inFlow (s : Scanner) : Bool :=
  !s.outer.isEmpty

/-- The least column of the lines of a scalar here. -/
def contentColumn (s : Scanner) : Nat :=
  (s.blocks.head?.map (· + 1)).getD 0

/-- Move over the next `n` characters. -/
def skip (s : Scanner) (n : Nat) : Scanner :=
  { s with mark := s.mark.past (s.rest.take n), rest := s.rest.drop n }

/-- Move over characters as long as they satisfy a check. -/
def skipWhile (s : Scanner) (p : Char → Bool) : Scanner :=
  s.skip (s.rest.takeWhile p).length

def emit (s : Scanner) (t : Token) : Scanner :=
  { s with tokens := s.tokens.push t }

/-! ### Blanks and comments -/

/-- Whether a comment follows, on this line or after blank lines. -/
def commentFollows (s : Scanner) : Bool :=
  (s.rest.dropWhile fun c => isBlank c || isBreak c).head? == some '#'

/-- Move over a comment and the comments on the lines after it, however they are indented, up to the end
of the last one's line. -/
def skipComments : (fuel : Nat) → Scanner → Scanner
  | 0, s => s
  | fuel + 1, s =>
    let s := s.skipWhile fun c => !isBreak c
    if s.commentFollows then skipComments fuel (s.skipWhile fun c => isBlank c || isBreak c) else s

/-- Move to the next token. Tabs may stand in front of it in flow collections and where no key may
begin; a new line may begin with a key. -/
def skipBlanks : (fuel : Nat) → Scanner → Scanner
  | 0, s => s
  | fuel + 1, s =>
    let s := s.skipWhile fun c => c == ' ' || (c == '\t' && (s.inFlow || !s.keyAllowed))
    let s := if s.rest.head? == some '#' then s.skipComments (s.rest.length + 1) else s
    match s.rest with
    | c :: _ =>
      if isBreak c then skipBlanks fuel { s.skip 1 with keyAllowed := s.keyAllowed || !s.inFlow }
      else s
    | [] => s

/-- Move over a comment on the rest of the line. -/
def skipLineComment (s : Scanner) : Scanner :=
  if (s.rest.dropWhile isBlank).head? == some '#' then s.skipWhile fun c => !isBreak c else s

/-! ### Blocks and keys -/

def closeBlocks (s : Scanner) (deeper : Nat → Bool) : Scanner :=
  if s.inFlow then s else
  let closed := s.blocks.takeWhile deeper
  { s with
    blocks := s.blocks.drop closed.length
    tokens := s.tokens ++ (closed.map fun _ => Token.closeBlock).toArray }

def insertAt (s : Scanner) (position : Nat) (ts : List Token) : Scanner :=
  let before := s.tokens.extract 0 position
  let after := s.tokens.extract position s.tokens.size
  { s with tokens := before ++ ts.toArray ++ after }

/-- Open a block at a column, with its token at a position, when no block is indented that much yet. -/
def openBlock (s : Scanner) (column position : Nat) (t : Token) : Scanner :=
  if s.inFlow || s.blocks.head?.any fun c => column ≤ c then s
  else { s with blocks := column :: s.blocks }.insertAt position [t]

/-- Forget the pending key; it is an error when it was required. -/
def dropKey (s : Scanner) : Option Scanner :=
  match s.pending with
  | some k => if k.required then none else some { s with pending := none }
  | none => some s

/-- Remember this place for a key, when one may begin here. -/
def saveKey (s : Scanner) : Option Scanner :=
  if s.keyAllowed then do
    let s ← s.dropKey
    let required := !s.inFlow && s.blocks.head? == some s.mark.column
    return { s with pending := some ⟨required, s.tokens.size, s.mark⟩ }
  else some s

/-- The pending key, when it is on this line and not too far back. -/
def keyInReach (s : Scanner) : Option (Option PendingKey) :=
  match s.pending with
  | none => some none
  | some k =>
    if k.mark.line < s.mark.line || k.mark.index + 1024 < s.mark.index then
      if k.required then none else some none
    else some (some k)

/-! ### Indicators -/

/-- Close all blocks and forget the pending key, in front of something that stands outside documents. -/
def leaveDocument (s : Scanner) : Option Scanner := do
  let s ← (s.closeBlocks fun _ => true).dropKey
  return { s with keyAllowed := false }

def documentMark (s : Scanner) (t : Token) : Option Scanner := do
  let s ← s.leaveDocument
  return (s.skip 3).emit t

/-- Read the start of a flow collection. -/
def openFlow (s : Scanner) (t : Token) : Option Scanner := do
  let s ← s.saveKey
  let s := { s with outer := s.pending :: s.outer, pending := none, keyAllowed := true }
  if 10000 < s.outer.length then none
  return (s.skip 1).emit t

/-- Read the end of a flow collection. -/
def closeFlow (s : Scanner) (t : Token) : Option Scanner := do
  let s ← s.dropKey
  let s := match s.outer with
    | pending :: outer => { s with pending, outer }
    | [] => s
  return ({ s with keyAllowed := false }.skip 1).emit t

/-- Read the comma between the entries of a flow collection. -/
def flowEntry (s : Scanner) : Option Scanner := do
  let s ← s.dropKey
  return ({ s with keyAllowed := true }.skip 1).emit .entry

/-- Read the dash in front of an item of a block sequence. -/
def blockItem (s : Scanner) : Option Scanner := do
  if !s.inFlow && !s.keyAllowed then none
  let s ← (s.openBlock s.mark.column s.tokens.size .openSequence).dropKey
  return ({ s with keyAllowed := true }.skip 1).emit .item

/-- Read the question mark in front of a key. -/
def explicitKey (s : Scanner) : Option Scanner := do
  if !s.inFlow && !s.keyAllowed then none
  let s ← (s.openBlock s.mark.column s.tokens.size .openMapping).dropKey
  return ({ s with keyAllowed := !s.inFlow }.skip 1).emit .key

/-- Read the colon in front of a value. What was pending before it is a key. -/
def mappingValue (s : Scanner) : Option Scanner := do
  match ← s.keyInReach with
  | some k =>
    let s := (s.insertAt k.position [.key]).openBlock k.mark.column k.position .openMapping
    return ({ s with pending := none, keyAllowed := false }.skip 1).emit .value
  | none =>
    if !s.inFlow && !s.keyAllowed then none
    let s := s.openBlock s.mark.column s.tokens.size .openMapping
    return ({ s with pending := none, keyAllowed := !s.inFlow }.skip 1).emit .value

/-! ### Properties of nodes -/

/-- Read the name of an anchor or of an alias. -/
def nodeName (s : Scanner) (make : List Char → Token) : Option Scanner := do
  let s ← s.saveKey
  let s := { s with keyAllowed := false }.skip 1
  let name := s.rest.takeWhile isNameChar
  let s := s.skip name.length
  let ends := endsWord s.rest || s.rest.head?.any fun c =>
    ['?', ':', ',', ']', '\x7d', '%', '@', '\x60'].contains c
  if name.isEmpty || !ends then none
  return s.emit (make name)

/-- Whether a character may stand in a tag. -/
def isTagChar (c : Char) : Bool :=
  isNameChar c || ";/?:@&=+$,.!~*'()[]%".toList.contains c

/-- The bytes of a tag, with its percent escapes taken out. -/
def unescapeTag : (skip : Nat) → List Char → Option (List Char)
  | _, [] => some []
  | skip + 1, _ :: rest => unescapeTag skip rest
  | 0, c :: rest =>
    if c == '%' then do
      let n ← if rest.length < 2 then none else hexValue? (rest.take 2)
      if 0x80 ≤ n then none
      return Char.ofNat n :: (← unescapeTag 2 rest)
    else (unescapeTag 0 rest).map (c :: ·)

/-- Read a tag: a whole one between angle brackets, a handle with a suffix, or a suffix alone. -/
def nodeTag (s : Scanner) : Option Scanner := do
  let s ← s.saveKey
  let s := { s with keyAllowed := false }.skip 1
  if s.rest.head? == some '<' then
    let s := s.skip 1
    let uri := s.rest.takeWhile isTagChar
    let s := s.skip uri.length
    if uri.isEmpty || s.rest.head? != some '>' then none
    let s := s.skip 1
    if !endsWord s.rest then none
    return s.emit (.tag [] (← unescapeTag 0 uri))
  else
    let name := s.rest.takeWhile isNameChar
    let s := s.skip name.length
    if s.rest.head? == some '!' then
      let s := s.skip 1
      let suffix := s.rest.takeWhile isTagChar
      let s := s.skip suffix.length
      if suffix.isEmpty || !endsWord s.rest then none
      return s.emit (.tag ('!' :: name ++ ['!']) (← unescapeTag 0 suffix))
    else
      let suffix := s.rest.takeWhile isTagChar
      let s := s.skip suffix.length
      if !endsWord s.rest then none
      let whole := name ++ (← unescapeTag 0 suffix)
      return s.emit (if whole.isEmpty then .tag [] ['!'] else .tag ['!'] whole)

/-! ### Directives -/

private def number? (cs : List Char) : Option (Nat × List Char) :=
  let ds := cs.takeWhile Char.isDigit
  if ds.isEmpty || 2 < ds.length then none
  else some (ds.foldl (fun n c => n * 10 + (c.toNat - 0x30)) 0, cs.drop ds.length)

/-- Read the version that a directive asks for; each of its numbers has at most two digits. -/
private def version? (cs : List Char) : Option (Token × List Char) := do
  let (major, rest) ← number? (cs.dropWhile isBlank)
  if rest.head? != some '.' then none
  let (minor, rest) ← number? (rest.drop 1)
  return (.version major minor, rest)

/-- Read a handle and the text it stands for. -/
private def handle? (cs : List Char) : Option (Token × List Char) := do
  let cs := cs.dropWhile isBlank
  if cs.head? != some '!' then none
  let name := (cs.drop 1).takeWhile isNameChar
  let rest := cs.drop (1 + name.length)
  let closed := rest.head? == some '!'
  if !closed && !name.isEmpty then none
  let handle := '!' :: name ++ (if closed then ['!'] else [])
  let rest := if closed then rest.drop 1 else rest
  if !rest.head?.any isBlank then none
  let rest := rest.dropWhile isBlank
  let uri := rest.takeWhile isTagChar
  let rest := rest.drop uri.length
  if uri.isEmpty || !endsWord rest then none
  return (.handle handle (← unescapeTag 0 uri), rest)

def directive (s : Scanner) : Option Scanner := do
  let s := (← s.leaveDocument).skip 1
  let name := s.rest.takeWhile isNameChar
  let rest := s.rest.drop name.length
  if !endsWord rest then none
  let (token, rest) ←
    if name == "YAML".toList then version? rest
    else if name == "TAG".toList then handle? rest
    else none
  let rest := rest.dropWhile isBlank
  let rest := if rest.head? == some '#' then rest.dropWhile fun c => !isBreak c else rest
  if !endsLine rest then none
  let rest := rest.drop 1
  return (s.skip (s.rest.length - rest.length)).emit token

/-! ### Scalars -/

def takeScalar (s : Scanner) (plain : Bool) (scanned : Scanned) : Scanner :=
  { s with mark := scanned.mark, rest := scanned.rest }.emit (.scalar plain scanned.content)

/-- Read a scalar written as a block of lines. -/
def blockScalar (s : Scanner) (literal : Bool) : Option Scanner := do
  let s ← s.dropKey
  let s := { s with keyAllowed := true }.skip 1
  return s.takeScalar false (← blockFrom literal s.blocks.head? s.mark s.rest)

def quotedScalar (s : Scanner) (quote : Char) : Option Scanner := do
  let s ← s.saveKey
  let s := { s with keyAllowed := false }.skip 1
  return s.takeScalar false (← quotedFrom quote 0 [] .none s.mark s.rest)

/-- Read a scalar without quotes. A key may begin after it when it is followed by a new line. -/
def plainScalar (s : Scanner) : Option Scanner := do
  let s ← s.saveKey
  let scanned ← plainFrom s.inFlow s.contentColumn [] .none s.mark s.rest
  return { s with keyAllowed := scanned.pastLine }.takeScalar true scanned

def startsPlain (inFlow : Bool) (c : Char) (rest : List Char) : Bool :=
  if c == '-' then !rest.head?.any isBlank
  else if c == '?' || c == ':' then !inFlow && !endsWord rest
  else !(isBlank c || ",[]#&*!|>'\"%@\x60\x7b\x7d".toList.contains c)

/-! ### All tokens -/

/-- Read the token at a character. -/
def tokenAt (s : Scanner) (c : Char) (rest : List Char) : Option Scanner :=
  if c == '[' then s.openFlow .openFlowSequence
  else if c == '\x7b' then s.openFlow .openFlowMapping
  else if c == ']' then s.closeFlow .closeFlowSequence
  else if c == '\x7d' then s.closeFlow .closeFlowMapping
  else if c == ',' then s.flowEntry
  else if c == '-' && endsWord rest then s.blockItem
  else if c == '?' && (s.inFlow || endsWord rest) then s.explicitKey
  else if c == ':' && (s.inFlow || endsWord rest) then s.mappingValue
  else if c == '*' then s.nodeName .alias
  else if c == '&' then s.nodeName .anchor
  else if c == '!' then s.nodeTag
  else if c == '|' && !s.inFlow then s.blockScalar true
  else if c == '>' && !s.inFlow then s.blockScalar false
  else if c == '\'' || c == '"' then s.quotedScalar c
  else if startsPlain s.inFlow c rest then s.plainScalar
  else none

/-- Read the next token, or more than one where blocks end. -/
def step (s : Scanner) : Option Scanner :=
  let s := s.skipBlanks (s.rest.length + 1)
  let s := s.closeBlocks fun column => s.mark.column < column
  match s.rest with
  | [] => do
    let s ← s.leaveDocument
    return { s.emit .streamEnd with finished := true }
  | c :: rest =>
    if s.mark.column == 0 && c == '%' then s.directive
    else if s.mark.column == 0 && startsDocument '-' s.rest then s.documentMark .documentStart
    else if s.mark.column == 0 && startsDocument '.' s.rest then s.documentMark .documentEnd
    else do
      let s ← s.tokenAt c rest
      return if s.tokens.back? == some .item then s else s.skipLineComment

/-- Read all tokens up to the end, or up to where none can be read. -/
def run : (fuel : Nat) → Scanner → List Token
  | 0, s => s.tokens.toList ++ [.invalid]
  | fuel + 1, s =>
    if s.finished then s.tokens.toList
    else match s.step with
      | some s => run fuel s
      | none => s.tokens.toList ++ [.invalid]

end Scanner

def tokens (cs : List Char) : List Token :=
  Scanner.run (cs.length + 2) { rest := cs }

end SystemLoops.Format.Yaml
