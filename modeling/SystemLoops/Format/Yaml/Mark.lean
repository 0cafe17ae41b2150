import SystemLoops.Text.Rune

namespace SystemLoops.Format.Yaml

/-- Whether a character ends a line. -/
def isBreak (c : Char) : Bool :=
  let n := c.toNat
  n == 0x0A || n == 0x0D || n == 0x85 || n == 0x2028 || n == 0x2029

/-- Whether a character is a space or a tab. -/
def isBlank (c : Char) : Bool :=
  c == ' ' || c == '\t'

/-- Whether a character is part of a name: a letter, a digit, an underscore or a dash. -/
def isNameChar (c : Char) : Bool :=
  c.isAlphanum || c == '_' || c == '-'

/-- Whether a text is at its end, at the end of a line, or at a blank. -/
def endsWord : List Char → Bool
  | [] => true
  | c :: _ => isBlank c || isBreak c

/-- Whether a text is at its end or at the end of a line. -/
def endsLine : List Char → Bool
  | [] => true
  | c :: _ => isBreak c

def startsDocument (mark : Char) : List Char → Bool
  | a :: b :: c :: rest => a == mark && b == mark && c == mark && endsWord rest
  | _ => false

/-- Whether a line starts with one of the two marks between documents. -/
def isDocumentMark (cs : List Char) : Bool :=
  startsDocument '-' cs || startsDocument '.' cs

/-- A position in a text. -/
structure Mark where
  line : Nat := 0
  column : Nat := 0
  index : Nat := 0
deriving Repr, DecidableEq, Inhabited

namespace Mark

/-- The position after a character. -/
def after (m : Mark) (c : Char) : Mark :=
  if isBreak c then ⟨m.line + 1, 0, m.index + 1⟩ else ⟨m.line, m.column + 1, m.index + 1⟩

/-- The position after several characters. -/
def past (m : Mark) (cs : List Char) : Mark :=
  cs.foldl after m

end Mark

/-- Whether a character may stand in a text at all. -/
def isAllowed (c : Char) : Bool :=
  let n := c.toNat
  n == 0x09 || n == 0x0A || n == 0x0D || (0x20 ≤ n && n ≤ 0x7E) || n == 0x85
    || (0xA0 ≤ n && n ≤ 0xFFFD) || 0x10000 ≤ n

/-- The characters with every line break in one form. -/
def unifyBreaks : List Char → List Char
  | [] => []
  | '\r' :: '\n' :: rest => '\n' :: unifyBreaks rest
  | c :: rest => (if c == '\r' || c == '\u0085' then '\n' else c) :: unifyBreaks rest

/-- The units of two bytes of a text, by what the first and the second byte of each make; nothing when a byte
is left over. -/
def units? (unit : UInt8 → UInt8 → Nat) : Text → Option (List Nat)
  | [] => some []
  | [_] => none
  | a :: b :: rest => (units? unit rest).map (unit a b :: ·)

def isHighHalf (unit : Nat) : Bool :=
  0xD800 ≤ unit && unit < 0xDC00

def isLowHalf (unit : Nat) : Bool :=
  0xDC00 ≤ unit && unit < 0xE000

/-- The characters that units of two bytes stand for; nothing when half a character stands alone. -/
def unitCharacters? : List Nat → Option (List Char)
  | [] => some []
  | [u] => if isHighHalf u || isLowHalf u then none else some [Char.ofNat u]
  | u :: v :: rest =>
    if isHighHalf u then
      if isLowHalf v then
        (unitCharacters? rest).map (Char.ofNat (0x10000 + (u - 0xD800) * 0x400 + (v - 0xDC00)) :: ·)
      else none
    else if isLowHalf u then none
    else (unitCharacters? (v :: rest)).map (Char.ofNat u :: ·)

/-- The characters of a text, in the encoding that a byte order mark in front of it tells; nothing when they
are not encoded well. -/
def decoded? : Text → Option (List Char)
  | 0xFF :: 0xFE :: rest =>
    (units? (fun low high => high.toNat * 0x100 + low.toNat) rest).bind unitCharacters?
  | 0xFE :: 0xFF :: rest =>
    (units? (fun high low => high.toNat * 0x100 + low.toNat) rest).bind unitCharacters?
  | t =>
    let runes := (Text.dropPrefix [0xEF, 0xBB, 0xBF] t).runes
    if runes.all Rune.wellFormed then some (runes.map Rune.char) else none

/-- The characters of a text, without a byte order mark in front; nothing when one of them may not stand
in it. -/
def characters? (t : Text) : Option (List Char) := do
  let cs ← decoded? t
  if cs.all isAllowed then some (unifyBreaks cs) else none

end SystemLoops.Format.Yaml
