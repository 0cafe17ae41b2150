import SystemLoops.Format.Yaml.Mark
import SystemLoops.Format.Yaml.Scalar

namespace SystemLoops.Format.Yaml

/-- What can be written: texts, lists, and records with plain names. -/
inductive Tree where
  | text (t : Text)
  | list (items : List Tree)
  | record (fields : List (String × Tree))
deriving Repr, Inhabited

/-! ### What a text looks like -/

/-- Characters that show as themselves. -/
def isShown (c : Char) : Bool :=
  let n := c.toNat
  n == 0x0A || (0x20 ≤ n && n ≤ 0x7E) || (0xA0 ≤ n && n ≤ 0xFFFD && n != 0xFEFF)

/-- What decides about the style of a text. -/
structure Shape where
  indicators : Bool := false
  lineBreaks : Bool := false
  special : Bool := false
  tabs : Bool := false
  leadingSpace : Bool := false
  leadingBreak : Bool := false
  trailingSpace : Bool := false
  trailingBreak : Bool := false
  breakSpace : Bool := false
  spaceBreak : Bool := false
deriving Repr, Inhabited

/-- Whether a character would be taken for a mark of the format at its place. -/
private def isIndicator (first afterBlank beforeBlank : Bool) (c : Char) : Bool :=
  if first then
    ['#', ',', '[', ']', '\x7b', '\x7d', '&', '*', '!', '|', '>', '\'', '"', '%', '@', '\x60'].contains c
      || ((c == '?' || c == ':' || c == '-') && beforeBlank)
  else (c == ':' && beforeBlank) || (c == '#' && afterBlank)

private def shapeFrom (shape : Shape) : (first : Bool) → (before : Option Char) → List Char → Shape
  | _, _, [] => shape
  | first, before, c :: rest =>
    let afterBlank := match before with
      | none => true
      | some p => isBlank p || isBreak p || p.toNat == 0
    let beforeBlank := match rest with
      | [] => true
      | n :: _ => isBlank n
    let last := rest.isEmpty
    let afterSpace := before == some ' '
    let afterBreak := before.any isBreak
    let shape := { shape with
      indicators := shape.indicators || isIndicator first afterBlank beforeBlank c
      tabs := shape.tabs || c == '\t'
      special := shape.special || (c != '\t' && !isShown c) }
    let shape :=
      if c == ' ' then { shape with
        leadingSpace := shape.leadingSpace || first
        trailingSpace := shape.trailingSpace || last
        breakSpace := shape.breakSpace || afterBreak }
      else if isBreak c then { shape with
        lineBreaks := true
        leadingBreak := shape.leadingBreak || first
        trailingBreak := shape.trailingBreak || last
        spaceBreak := shape.spaceBreak || afterSpace }
      else shape
    shapeFrom shape false (some c) rest

def shapeOf (cs : List Char) : Shape :=
  let marked := ['-', '-', '-'].isPrefixOf cs || ['.', '.', '.'].isPrefixOf cs
  shapeFrom { indicators := marked } true none cs

namespace Shape

def plainFits (s : Shape) : Bool :=
  !(s.indicators || s.lineBreaks || s.special || s.tabs || s.leadingSpace || s.leadingBreak
    || s.trailingSpace || s.trailingBreak || s.breakSpace || s.spaceBreak)

/-- Whether a text of this shape can be written between single quotes. -/
def singleFits (s : Shape) : Bool :=
  !(s.breakSpace || s.spaceBreak || s.tabs || s.special)

/-- Whether a text of this shape can be written as a block. -/
def blockFits (s : Shape) : Bool :=
  !(s.trailingSpace || s.spaceBreak || s.special)

end Shape

/-! ### Styles -/

private def blanks (n : Nat) : Text := Text.replicate n 0x20

private def upperHex (width n : Nat) : Text :=
  (Text.hexPadded width n).map fun b => if 0x61 ≤ b then b - 0x20 else b

def doubleQuotedChar (c : Char) : Text :=
  let n := c.toNat
  if isShown c && !isBreak c && n != 0x22 && n != 0x5C then Text.ofChar c
  else
    let letter : Option Char := match n with
      | 0x00 => some '0' | 0x07 => some 'a' | 0x08 => some 'b' | 0x09 => some 't'
      | 0x0A => some 'n' | 0x0B => some 'v' | 0x0C => some 'f' | 0x0D => some 'r'
      | 0x1B => some 'e' | 0x22 => some '"' | 0x5C => some '\\' | 0x85 => some 'N'
      | 0xA0 => some '_' | 0x2028 => some 'L' | 0x2029 => some 'P' | _ => none
    match letter with
    | some l => "\\" ++ Text.ofChar l
    | none =>
      if n ≤ 0xFF then "\\x" ++ upperHex 2 n
      else if n ≤ 0xFFFF then "\\u" ++ upperHex 4 n
      else "\\U" ++ upperHex 8 n

def doubleQuoted (cs : List Char) : Text :=
  "\"" ++ cs.flatMap doubleQuotedChar ++ "\""

/-- The characters of a text, indented again after every line break. -/
private def indentedChars (indent : Nat) (write : Char → Text) : (afterBreak : Bool) →
    List Char → Text
  | _, [] => []
  | afterBreak, c :: rest =>
    if isBreak c then Text.ofChar c ++ indentedChars indent write true rest
    else (if afterBreak then blanks indent else []) ++ write c ++
      indentedChars indent write false rest

def singleQuoted (indent : Nat) (cs : List Char) : Text :=
  "'" ++ indentedChars indent (fun c => if c == '\'' then "''" else Text.ofChar c) false cs ++ "'"

/-- A text as a literal block: the marks for its indentation and its end, and its lines. A leading line
break doubles as the end of the header. -/
def literal (indent : Nat) (cs : List Char) : Text :=
  let leads := match cs with
    | c :: _ => c == ' ' || isBreak c
    | [] => false
  let chomp : Text := match cs.reverse with
    | [] => "-"
    | last :: before =>
      if !isBreak last then "-"
      else match before with
        | [] => "+"
        | c :: _ => if isBreak c then "+" else []
  let header : Text := (if leads then "|2" else "|") ++ chomp
  match cs with
  | c :: _ =>
    if isBreak c then header ++ indentedChars indent Text.ofChar true cs
    else header ++ [Text.newline] ++ indentedChars indent Text.ofChar true cs
  | [] => header

private def base64Digit (n : Nat) : UInt8 :=
  if n < 26 then UInt8.ofNat (0x41 + n)
  else if n < 52 then UInt8.ofNat (0x61 + n - 26)
  else if n < 62 then UInt8.ofNat (0x30 + n - 52)
  else if n == 62 then 0x2B else 0x2F

/-- Bytes in base sixty-four. -/
def base64 : Text → Text
  | a :: b :: c :: rest =>
    let n := (a.toNat * 256 + b.toNat) * 256 + c.toNat
    [base64Digit (n / 262144), base64Digit (n / 4096 % 64), base64Digit (n / 64 % 64),
      base64Digit (n % 64)] ++ base64 rest
  | [a, b] =>
    let n := (a.toNat * 256 + b.toNat) * 256
    [base64Digit (n / 262144), base64Digit (n / 4096 % 64), base64Digit (n / 64 % 64), 0x3D]
  | [a] =>
    let n := a.toNat * 65536
    [base64Digit (n / 262144), base64Digit (n / 4096 % 64), 0x3D, 0x3D]
  | [] => []

/-- Lines of at most `width` bytes, each with a line feed. -/
private def wrapped (width : Nat) : (column : Nat) → Text → Text
  | column, [] => if column == 0 then [] else [Text.newline]
  | column, b :: rest =>
    if column == width then Text.newline :: b :: wrapped width 1 rest
    else b :: wrapped width (column + 1) rest

/-- A text as a scalar, whose further lines are indented by `indent`. -/
def scalar (indent : Nat) (t : Text) : Text :=
  if !t.isValid then
    let digits := base64 t
    if digits.length < 70 then "!!binary " ++ digits
    else "!!binary " ++ literal indent (Text.chars (wrapped 70 0 digits))
  else
    let cs := t.chars
    let shape := shapeOf cs
    if t.contains Text.newline then
      if shape.blockFits then literal indent cs else doubleQuoted cs
    else if resolve t == .text && !isSexagesimal t && !isOldBool t then
      if shape.plainFits then t
      else if shape.singleFits then singleQuoted indent cs
      else doubleQuoted cs
    else doubleQuoted cs

/-! ### Trees -/

/-- A line feed, unless the text ends a line already. -/
private def endLine (t : Text) : Text :=
  match t.chars.getLast? with
  | some c => if isBreak c then t else t ++ [Text.newline]
  | none => [Text.newline]

mutual

/-- A value after the mark or name of its owner, which stands at `indent`. -/
def value (indent : Nat) : Tree → Text
  | .text t => " " ++ endLine (scalar (indent + 2) t)
  | .list [] => " []\n"
  | .list (item :: rest) => "\n" ++ items (indent + 2) (item :: rest)
  | .record [] => " \x7b\x7d\n"
  | .record (field :: rest) => "\n" ++ fields (indent + 2) false (field :: rest)

def items (indent : Nat) : List Tree → Text
  | [] => []
  | .record (field :: others) :: rest =>
    blanks indent ++ "- " ++ fields (indent + 2) true (field :: others) ++ items indent rest
  | item :: rest => blanks indent ++ "-" ++ value indent item ++ items indent rest

/-- The fields of a record at an indentation; the first one may stand behind the mark of an item. -/
def fields (indent : Nat) (inItem : Bool) : List (String × Tree) → Text
  | [] => []
  | (name, v) :: rest =>
    (if inItem then [] else blanks indent) ++ Text.ofString name ++ ":" ++ value indent v
      ++ fields indent false rest

end

def document (list : List Tree) : Text :=
  if list.isEmpty then "[]\n" else items 0 list

end SystemLoops.Format.Yaml
