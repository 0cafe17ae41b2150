import SystemLoops.Source.Token
import SystemLoops.Text.Rune
import SystemLoops.Text.Unicode.Category

namespace SystemLoops.Source

/-- The lexeme at the front of a text. -/
structure Lexeme where
  tok : Tok
  width : Nat
  /-- Whether a line feed right after the lexeme ends the statement. -/
  endsLine : Bool := false
  flawed : Bool := false
deriving Repr, Inhabited

/-- Characters that start an identifier. -/
def isIdentStart (c : Char) : Bool :=
  c == '_' || Unicode.isLetter c

/-- Characters that continue an identifier. -/
def isIdentPart (c : Char) : Bool :=
  isIdentStart c || Unicode.isDigit c

/-- The number of bytes at the front that continue an identifier, after `skip` that do. -/
def identWidth : (skip : Nat) → Text → Nat
  | _, [] => 0
  | skip + 1, _ :: rest => identWidth skip rest + 1
  | 0, b :: rest =>
    let r := Rune.decode b rest
    if isIdentPart r.char then identWidth (r.width - 1) rest + 1 else 0

/-- The bytes that an escape takes after its backslash, and whether it is well formed. -/
structure Escape where
  width : Nat
  wellFormed : Bool

/-- The digits of an escape after `lead` bytes: at most as many as it may have, with a value in its range. -/
def escapeDigits (base digits limit : Nat) (lead : Nat) (t : Text) : Escape :=
  let valid := fun b => match Text.hexValue? b with
    | some d => decide (d < base)
    | none => false
  let taken := (t.take digits).takeWhile valid
  let value := taken.foldl (fun n b => n * base + (Text.hexValue? b).getD 0) 0
  ⟨lead + taken.length,
    taken.length == digits && value ≤ limit && !(0xD800 ≤ value && value < 0xE000)⟩

/-- The escape after a backslash, inside quotes of the kind `mark`. -/
def escape (mark : UInt8) (t : Text) : Escape :=
  match t with
  | [] => ⟨0, false⟩
  | b :: rest =>
    if b == mark || [0x61, 0x62, 0x66, 0x6E, 0x72, 0x74, 0x76, 0x5C].contains b then ⟨1, true⟩
    else if 0x30 ≤ b && b ≤ 0x37 then escapeDigits 8 3 255 0 t
    else if b == 0x78 then escapeDigits 16 2 255 1 rest
    else if b == 0x75 then escapeDigits 16 4 0x10FFFF 1 rest
    else if b == 0x55 then escapeDigits 16 8 0x10FFFF 1 rest
    else ⟨0, false⟩

/-- How far a delimited literal reaches after its opening mark, how many characters it holds, and
whether it is well formed. -/
structure Extent where
  width : Nat
  chars : Nat
  wellFormed : Bool

namespace Extent

/-- The literal goes on with one more byte in front. -/
def grow (e : Extent) : Extent :=
  { e with width := e.width + 1 }

/-- The literal has one more character, which starts here. -/
def growChar (e : Extent) : Extent :=
  ⟨e.width + 1, e.chars + 1, e.wellFormed⟩

end Extent

/-- The rest of a literal that a `mark` closes and no line feed may interrupt. -/
def quotedExtent (mark : UInt8) : (skip : Nat) → Text → Extent
  | _, [] => ⟨0, 0, false⟩
  | skip + 1, _ :: rest => (quotedExtent mark skip rest).grow
  | 0, b :: rest =>
    if b == Text.newline then ⟨0, 0, false⟩
    else if b == mark then ⟨1, 0, true⟩
    else if b == 0x5C then
      let e := escape mark rest
      let whole := (quotedExtent mark e.width rest).growChar
      { whole with wellFormed := whole.wellFormed && e.wellFormed }
    else
      (quotedExtent mark ((Rune.decode b rest).width - 1) rest).growChar

/-- The backquote, which delimits raw strings. -/
def backquote : UInt8 := 0x60

/-- The rest of a raw string: everything up to the next backquote. -/
def rawExtent : Text → Extent
  | [] => ⟨0, 0, false⟩
  | b :: rest => if b == backquote then ⟨1, 0, true⟩ else (rawExtent rest).grow

/-- The bytes of a line comment after its second slash. -/
def lineCommentWidth (t : Text) : Nat :=
  (t.takeWhile (· != Text.newline)).length

/-- The rest of a block comment after its opening: everything up to the closing mark. -/
def blockExtent : Text → Extent
  | [] => ⟨0, 0, false⟩
  | b :: rest =>
    if b == 0x2A && rest.head? == some 0x2F then ⟨2, 0, true⟩ else (blockExtent rest).grow

/-! ### Numbers -/

/-- The notation of a number. -/
inductive Radix where
  | decimal | zeroOctal | hex | octal | binary
deriving DecidableEq

namespace Radix

/-- The base of the digits before an exponent. -/
def base : Radix → Nat
  | .decimal => 10
  | .zeroOctal | .octal => 8
  | .hex => 16
  | .binary => 2

end Radix

/-- A letter in lower case. -/
def lower (b : UInt8) : UInt8 := b ||| 0x20

/-- Whether a byte is a hexadecimal digit. -/
def isHexDigit (b : UInt8) : Bool :=
  (Text.hexValue? b).isSome

def digitRun (radix : Radix) (t : Text) : Text :=
  t.takeWhile fun b =>
    b == 0x5F || (if radix == .hex then isHexDigit b else Text.isDecimal b)

/-- Whether there is more than underscores in a run of digits. -/
private def hasDigit (run : Text) : Bool := run.any (· != 0x5F)

/-- Whether every underscore of a number stands between digits; the base mark counts as one. -/
private def separatorsFit (t : Text) : Bool :=
  let isHex := t.head? == some 0x30 && (t[1]?.map lower) == some 0x78
  let marked := t.head? == some 0x30 &&
    [0x78, 0x6F, 0x62].any fun m => (t[1]?.map lower) == some m
  let rec go (before : UInt8) : Text → Bool
    | [] => before != 0x5F
    | b :: rest =>
      if b == 0x5F then before == 0x30 && go 0x5F rest
      else if Text.isDecimal b || (isHex && isHexDigit b) then go 0x30 rest
      else before != 0x5F && go 0x2E rest
  if marked then go 0x30 (t.drop 2) else go 0x2E t

/-- The notation of the number at the front of a text, and the bytes that mark it. -/
def Radix.read (t : Text) : Radix × Nat :=
  if t.head? == some 0x30 then
    match t[1]?.map lower with
    | some 0x78 => (.hex, 2)
    | some 0x6F => (.octal, 2)
    | some 0x62 => (.binary, 2)
    | _ => (.zeroOctal, 1)
  else (.decimal, 0)

/-- A number up to its exponent. -/
structure Mantissa where
  radix : Radix
  whole : Text
  /-- The digits after the point, when there is a point. -/
  fraction : Option Text
  width : Nat

def Mantissa.read (t : Text) : Mantissa :=
  let (radix, lead) := Radix.read t
  let whole := digitRun radix (t.drop lead)
  let point := lead + whole.length
  if t[point]? == some 0x2E then
    let fraction := digitRun radix (t.drop (point + 1))
    ⟨radix, whole, some fraction, point + 1 + fraction.length⟩
  else ⟨radix, whole, none, point⟩

structure Exponent where
  /-- Whether the letter is the one of hexadecimal numbers. -/
  hex : Bool
  digits : Text
  width : Nat

/-- The exponent that starts at byte `start` of a text, if one does. -/
def Exponent.read? (t : Text) (start : Nat) : Option Exponent :=
  let hex := t[start]?.map lower == some 0x70
  if hex || t[start]?.map lower == some 0x65 then
    let sign : Nat := if t[start + 1]? == some 0x2B || t[start + 1]? == some 0x2D then 1 else 0
    let digits := digitRun .decimal (t.drop (start + 1 + sign))
    some ⟨hex, digits, 1 + sign + digits.length⟩
  else none

/-- The number at the front of a text that starts with a digit, or a point and a digit. -/
def number (t : Text) : Lexeme :=
  let m := Mantissa.read t
  let e := Exponent.read? t m.width
  let size := m.width + (e.map Exponent.width).getD 0
  let imaginary := t[size]? == some 0x69
  let digitsSeen := m.radix == .zeroOctal || hasDigit m.whole || m.fraction.any hasDigit
  let badPoint := m.fraction.isSome && (m.radix == .octal || m.radix == .binary)
  let badExponent := match e with
    | some e =>
      (if e.hex then m.radix != .hex else m.radix != .decimal && m.radix != .zeroOctal)
        || !hasDigit e.digits
    | none => m.radix == .hex && m.fraction.isSome
  let tok : Tok :=
    if imaginary then .imag else if m.fraction.isSome || e.isSome then .float else .int
  let badDigit := tok == .int &&
    m.whole.any fun b => b != 0x5F && m.radix.base ≤ 10 && 0x30 + m.radix.base ≤ b.toNat
  let width := size + (if imaginary then 1 else 0)
  { tok, width, endsLine := true
    flawed := !digitsSeen || badPoint || badExponent || badDigit || !separatorsFit (t.take width) }

/-! ### Operators -/

/-- The operators and delimiters, longer spellings before their own beginnings. -/
def operators : List Tok :=
  [.shlAssign, .shrAssign, .andNotAssign, .ellipsis,
   .addAssign, .subAssign, .mulAssign, .quoAssign, .remAssign, .andAssign, .orAssign, .xorAssign,
   .shl, .shr, .andNot, .lAnd, .lOr, .arrow, .inc, .dec, .eql, .neq, .leq, .geq, .define,
   .add, .sub, .mul, .quo, .rem, .and, .or, .xor, .lss, .gtr, .assign, .not,
   .lparen, .lbrack, .lbrace, .comma, .period, .rparen, .rbrack, .rbrace, .semicolon, .colon,
   .tilde]

def operatorSpellings : List (Tok × Text) :=
  operators.map fun tok => (tok, Text.ofString tok.spelling)

def operator? (t : Text) : Option Lexeme :=
  (operatorSpellings.find? fun (_, spelling) => spelling.isPrefixOf t).map fun (tok, spelling) =>
    { tok, width := spelling.length
      endsLine := tok == .rparen || tok == .rbrack || tok == .rbrace || tok == .inc || tok == .dec }

/-- The lexeme that starts with byte `b`. -/
def lexeme (b : UInt8) (rest : Text) : Lexeme :=
  let r := Rune.decode b rest
  if isIdentStart r.char then
    let width := identWidth (r.width - 1) rest + 1
    match Tok.keyword? (b :: rest.take (width - 1)) with
    | some tok =>
      { tok, width
        endsLine := tok == .kwBreak || tok == .kwContinue || tok == .kwFallthrough
          || tok == .kwReturn }
    | none => { tok := .ident, width, endsLine := true }
  else if Text.isDecimal b || (b == 0x2E && (rest.head?.any Text.isDecimal)) then
    number (b :: rest)
  else if b == 0x22 then
    let e := quotedExtent b 0 rest
    { tok := .string, width := e.width + 1, endsLine := true, flawed := !e.wellFormed }
  else if b == 0x27 then
    let e := quotedExtent b 0 rest
    { tok := .char, width := e.width + 1, endsLine := true
      flawed := !e.wellFormed || e.chars != 1 }
  else if b == backquote then
    let e := rawExtent rest
    { tok := .string, width := e.width + 1, endsLine := true, flawed := !e.wellFormed }
  else if b == 0x2F && rest.head? == some 0x2F then
    { tok := .comment, width := 2 + lineCommentWidth (rest.drop 1) }
  else if b == 0x2F && rest.head? == some 0x2A then
    let e := blockExtent (rest.drop 1)
    { tok := .comment, width := 2 + e.width, flawed := !e.wellFormed }
  else match operator? (b :: rest) with
    | some op => op
    | none => { tok := .illegal, width := r.width, flawed := true }

end SystemLoops.Source
