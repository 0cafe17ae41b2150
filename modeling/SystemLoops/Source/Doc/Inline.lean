import SystemLoops.Text.Spelling

namespace SystemLoops.Source.Doc

/-! ### Web addresses -/

def schemes : List Text :=
  ["file", "ftp", "gopher", "http", "https", "mailto", "nntp"].map Text.ofString

/-- Whether a byte is an ASCII letter or digit. -/
private def isAlphanumeric (b : UInt8) : Bool :=
  Text.isDecimal b || (0x41 ≤ b && b ≤ 0x5A) || (0x61 ≤ b && b ≤ 0x7A)

/-- Whether a byte is one of those of a string. -/
private def isOneOf (bytes : String) (b : UInt8) : Bool :=
  (Text.ofString bytes).contains b

def isHostByte (b : UInt8) : Bool :=
  isAlphanumeric b || isOneOf "_@-.[]:" b

/-- Punctuation, which may stand in an address but not at its end. -/
def isStop (b : UInt8) : Bool :=
  isOneOf ".,:;?!" b

/-- Other bytes of the path of an address. -/
def isPathByte (b : UInt8) : Bool :=
  isAlphanumeric b || isOneOf "$'()*+&#=@~_/-[]\x7b\x7d%" b

/-- The closing bracket of an opening one. -/
private def closing? (b : UInt8) : Option UInt8 :=
  match b with
  | 0x28 => some 0x29
  | 0x7B => some 0x7D
  | 0x5B => some 0x5D
  | _ => none

/-- The width of the path of an address: up to the last byte, punctuation apart, outside of all brackets.
`opened` are the brackets to be closed, `offset` is how far the path was read. -/
def pathWidth : (opened : List UInt8) → (offset width : Nat) → Text → Nat
  | _, _, width, [] => width
  | opened, offset, width, b :: rest =>
    if isStop b then pathWidth opened (offset + 1) width rest
    else if !isPathByte b then width
    else
      let grown := fun opened : List UInt8 => if opened.isEmpty then offset + 1 else width
      match closing? b with
      | some close => pathWidth (close :: opened) (offset + 1) width rest
      | none =>
        if b == 0x29 || b == 0x7D || b == 0x5D then
          match opened with
          | expected :: opened =>
            if expected == b then pathWidth opened (offset + 1) (grown opened) rest else width
          | [] => width
        else pathWidth opened (offset + 1) (grown opened) rest

def hostWidth (t : Text) : Nat :=
  match t.head? with
  | some b =>
    if isHostByte b && !isStop b then (Text.trimEnd isStop (t.takeWhile isHostByte)).length else 0
  | none => 0

/-- The width of the web address that a text starts with, zero when it starts with none. -/
def addressWidth (t : Text) : Nat :=
  if t.length < 7 then 0
  else match Text.cut 0x3A (t.take 7) with
    | none => 0
    | some _ =>
      match [3, 4, 5, 6].find? fun i => t[i]? == some 0x3A with
      | none => 0
      | some i =>
        let rest := t.drop i
        if !(Text.ofString "://").isPrefixOf rest || !schemes.contains (t.take i) then 0
        else
          let host := hostWidth (rest.drop 3)
          if host == 0 then 0 else i + 3 + host + pathWidth [] 0 0 (rest.drop (3 + host))

/-! ### Names and quotes -/

/-- The width of the name that a text starts with, after `skip` bytes of a character. -/
def nameWidth : (skip : Nat) → (isFirst : Bool) → Text → Nat
  | _, _, [] => 0
  | skip + 1, isFirst, _ :: rest => nameWidth skip isFirst rest + 1
  | 0, isFirst, b :: rest =>
    if b < 0x80 then
      if (isAlphanumeric b && !(isFirst && Text.isDecimal b)) || b == 0x5F then
        nameWidth 0 false rest + 1
      else 0
    else
      let r := Rune.decode b rest
      if Unicode.isLetter r.char then nameWidth (r.width - 1) false rest + 1 else 0

/-- The width of what a text starts with and is kept as it is: an address or a name where those are looked
for, or three backquotes. Backquotes behind the three are counted as many bytes further on as stand in
front of them. -/
def keptWidth (addresses : Bool) (position : Nat) (t : Text) : Nat :=
  let named := if addresses then max (addressWidth t) (nameWidth 0 true t) else 0
  if named > 0 then named
  else if [0x60, 0x60, 0x60].isPrefixOf t then
    3 + ((t.drop (position + 3)).takeWhile (· == 0x60)).length
  else 0

/-- Replace doubled quotes by typographic ones, after `drop` bytes that are left out and `keep` bytes that
stay. `position` counts the bytes read. -/
def typeset (addresses : Bool) : (position drop keep : Nat) → Text → Text
  | _, _, _, [] => []
  | position, drop + 1, keep, _ :: rest => typeset addresses (position + 1) drop keep rest
  | position, 0, keep + 1, b :: rest => b :: typeset addresses (position + 1) 0 keep rest
  | position, 0, 0, b :: rest =>
    match keptWidth addresses position (b :: rest) with
    | keep + 1 => b :: typeset addresses (position + 1) 0 keep rest
    | 0 =>
      if [0x60, 0x60].isPrefixOf (b :: rest) then
        Text.ofString "\u201C" ++ typeset addresses (position + 1) 1 0 rest
      else if [0x27, 0x27].isPrefixOf (b :: rest) then
        Text.ofString "\u201D" ++ typeset addresses (position + 1) 1 0 rest
      else b :: typeset addresses (position + 1) 0 0 rest

/-! ### Links -/

/-- The state of looking for links in a text; texts are kept with their last byte first. -/
private structure LinkSearch where
  /-- The finished text. -/
  done : Text := []
  /-- What was read since the last link. -/
  pending : Text := []
  /-- Behind an opening bracket: what was pending before it, and what was read since. -/
  opened : Option (Text × Text) := none
  /-- The word that is looked up. -/
  word : Text := []
  /-- The words that were found. -/
  used : List Text := []

/-- Take the next byte. -/
private def LinkSearch.step (defined : List Text) (s : LinkSearch) (b : UInt8) : LinkSearch :=
  if b == 0x5B then { s with opened := some (s.pending, []), pending := b :: s.pending }
  else if b == 0x5D then
    let closed := { s with pending := b :: s.pending, opened := none, word := [] }
    match s.opened with
    | none => closed
    | some (before, inner) =>
      let word := s.word.reverse
      if defined.contains word then
        { done := s.done ++ typeset true 0 0 0 before.reverse ++ 0x5B :: typeset false 0 0 0 inner.reverse
            ++ [0x5D]
          used := word :: s.used }
      else closed
  else
    match s.opened with
    | none => { s with pending := b :: s.pending }
    | some (before, inner) =>
      let shown := if b == Text.newline || b == 0x09 then 0x20 else b
      { s with pending := b :: s.pending, opened := some (before, b :: inner), word := shown :: s.word }

/-- A running text as it is printed, and the links that it uses. -/
def inline (defined : List Text) (t : Text) : Text × List Text :=
  let s := t.foldl (LinkSearch.step defined) {}
  (s.done ++ typeset true 0 0 0 s.pending.reverse, s.used)

end SystemLoops.Source.Doc
