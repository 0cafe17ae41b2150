import SystemLoops.Text.Rune

namespace SystemLoops.Format.Dotenv

abbrev Variables := List (Text × Text)

/-! ### Lines -/

/-- Cut a text at line feeds, carriage returns, and pairs of the two. -/
def lines : Text → List Text
  | [] => [[]]
  | 0x0D :: 0x0A :: rest => [] :: lines rest
  | 0x0D :: rest => [] :: lines rest
  | 0x0A :: rest => [] :: lines rest
  | b :: rest => match lines rest with
    | [] => [[b]]
    | first :: more => (b :: first) :: more

/-- Where a byte occurs for the last time. -/
def lastIndex? (b : UInt8) (t : Text) : Option Nat :=
  (t.reverse.findIdx? (· == b)).map fun i => t.length - 1 - i

/-- The quote that a line opens and does not close. The byte that could escape the closing quote is looked
for at the place that the quote has behind the opening one and the blanks there. -/
def openQuote? (line : Text) : Option UInt8 := do
  let at? := (line.findIdx? (· == 0x3D)).or (line.findIdx? (· == 0x3A))
  let place ← at?
  if place == 0 || line.length ≤ place + 1 then none
  let value := Text.trimSpace (line.drop (place + 1))
  let quote ← value.head?
  if quote != 0x22 && quote != 0x27 then none
  match lastIndex? quote (Text.trimSpace (value.drop 1)) with
  | some i => if value[i]? == some 0x5C then some quote else none
  | none => some quote

/-- Whether a line closes a quote: the last one on it has no backslash in front. -/
def closes (quote : UInt8) (text : Text) : Bool :=
  match lastIndex? quote text with
  | some 0 => true
  | some (i + 1) => text[i]? != some 0x5C
  | none => false

/-- The lines up to the one that closes a quote, added to what came before, and the lines after it. -/
def untilClosed? (quote : UInt8) (before : Text) : List Text → Option (Text × List Text)
  | [] => none
  | line :: rest =>
    let before := before ++ Text.newline :: line
    if closes quote line then some (before, rest) else untilClosed? quote before rest

/-! ### Assignments -/

/-- Blanks and ends of lines. -/
def isSpace (b : UInt8) : Bool :=
  b == 0x20 || b == 0x09 || b == 0x0A || b == 0x0C || b == 0x0D

/-- Whether a byte may stand in the name of a variable. -/
def isNameByte (b : UInt8) : Bool :=
  Text.isDecimal b || (0x41 ≤ b && b ≤ 0x5A) || (0x61 ≤ b && b ≤ 0x7A) || b == 0x5F || b == 0x2E

/-- Whether nothing but a comment follows a value. -/
def isTail (t : Text) : Bool :=
  match t.dropWhile isSpace with
  | [] => true
  | b :: rest => b == 0x23 && !rest.contains Text.newline

/-- The longest value that the mark at the front opens and another one closes, of those that end the line.
`before` holds what was passed, the latest byte first. -/
def quotedValue? (mark : UInt8) : (before : Text) → Text → Option Text
  | _, [] => none
  | before, b :: rest =>
    let before := b :: before
    (quotedValue? mark before rest).or
      (if b == mark && isTail rest then some before.reverse else none)

/-- The value at the front of a text, which ends the line: in quotes, up to a comment, or none. -/
def valueAt? (t : Text) : Option Text :=
  let marked := match t with
    | b :: rest => if b == 0x22 || b == 0x27 then quotedValue? b [b] rest else none
    | [] => none
  marked.or <|
    let bare := t.takeWhile fun b => b != 0x23 && b != Text.newline
    if !bare.isEmpty && isTail (t.drop bare.length) then some bare
    else if isTail t then some []
    else none

/-- The value behind a colon: at least one blank is skipped, and more only if there is no value before. -/
def valueBehindColon? : Text → Option Text
  | [] => none
  | b :: rest => if isSpace b then (valueAt? rest).or (valueBehindColon? rest) else none

def nameAndValue? (t : Text) : Option (Text × Text) :=
  let name := t.takeWhile isNameByte
  let rest := t.drop name.length
  if name.isEmpty then none
  else
    let value := match rest.dropWhile isSpace with
      | 0x3D :: behind => valueAt? (behind.dropWhile isSpace)
      | _ => none
    let value := value.or <| match rest with
      | 0x3A :: behind => valueBehindColon? behind
      | _ => none
    value.map fun v => (name, v)

/-- The name and the value on a line, which may start with the word for exporting. -/
def assignment? (t : Text) : Option (Text × Text) :=
  let t := t.dropWhile isSpace
  let word := Text.ofString "export"
  let rest := t.drop word.length
  let exported := if word.isPrefixOf t && rest.head?.any isSpace then nameAndValue? (rest.dropWhile isSpace)
    else none
  exported.or (nameAndValue? t)

/-! ### Values -/

/-- Take backslashes away, but not those before a dollar sign; some letters behind them are line ends. -/
def unescape : Text → Text
  | 0x5C :: 0x24 :: rest => 0x5C :: 0x24 :: unescape rest
  | 0x5C :: b :: rest => b :: unescape rest
  | b :: rest => b :: unescape rest
  | [] => []

/-- Put a byte in place of a backslash with a letter. -/
def replaceEscape (letter byte : UInt8) : Text → Text
  | 0x5C :: b :: rest =>
    if b == letter then byte :: replaceEscape letter byte rest
    else 0x5C :: replaceEscape letter byte (b :: rest)
  | b :: rest => b :: replaceEscape letter byte rest
  | [] => []

/-- Whether a byte may stand in the name of a variable that a value refers to. -/
def isReferenceByte (b : UInt8) : Bool :=
  Text.isDecimal b || (0x41 ≤ b && b ≤ 0x5A) || b == 0x5F

/-- A reference behind a dollar sign: the name, which may be empty, and the number of bytes. -/
def reference (t : Text) : Text × Nat :=
  let opened := if t.head? == some 0x7B then 1 else 0
  let name := (t.drop opened).takeWhile isReferenceByte
  let closed := if (t.drop (opened + name.length)).head? == some 0x7D then 1 else 0
  (name, opened + name.length + closed)

/-- The value with references replaced by what `lookup` has for them. A reference behind a backslash is kept
without it, and one without a name is kept. `skip` bytes belong to a reference that was replaced. -/
def expand (lookup : Text → Text) : (skip : Nat) → Text → Text
  | _, [] => []
  | skip + 1, _ :: rest => expand lookup skip rest
  | 0, 0x5C :: 0x24 :: rest =>
    let (_, width) := reference rest
    0x24 :: rest.take width ++ expand lookup (width + 1) (0x24 :: rest)
  | 0, b :: rest =>
    if b == 0x24 then
      let (name, width) := reference rest
      (if name.isEmpty then b :: rest.take width else lookup name) ++ expand lookup width rest
    else b :: expand lookup 0 rest

def interpret (lookup : Text → Text) (spelling : Text) : Text :=
  let t := Text.trimSpace spelling
  let isIn := fun mark : UInt8 => 2 ≤ t.length && t.head? == some mark && t.getLast? == some mark
  let inner := (t.drop 1).dropLast
  if isIn 0x27 then inner
  else if isIn 0x22 then
    expand lookup 0 (unescape (replaceEscape 0x72 0x0D (replaceEscape 0x6E 0x0A inner)))
  else expand lookup 0 t

/-! ### Files -/

/-- The variables of at most `n` lines, added to those before, the latest first. -/
def readLines? (environment : Variables) : (n : Nat) → Variables → List Text → Option Variables
  | 0, _, _ => none
  | _, found, [] => some found
  | n + 1, found, line :: rest =>
    let line := Text.trimSpace line
    if line.isEmpty || line.head? == some 0x23 then readLines? environment n found rest
    else do
      let (line, rest) ← match openQuote? line with
        | some quote => untilClosed? quote line rest
        | none => some (line, rest)
      let (name, spelling) ← assignment? line
      let lookup := fun name => ((environment.lookup name).or (found.lookup name)).getD []
      readLines? environment n ((name, interpret lookup spelling) :: found) rest

/-- The variables of a file, each with its last value; nothing when a line has the wrong form. -/
def variables? (environment : Variables) (t : Text) : Option Variables := do
  let mark : Text := [0xEF, 0xBB, 0xBF]
  let t := if mark.isPrefixOf t then Text.scrub (t.drop mark.length) else t
  let lines := lines t
  let found ← readLines? environment (lines.length + 1) [] lines
  return found.foldr (fun (name, v) kept => (name, v) :: kept.filter fun e => e.1 != name) []

end SystemLoops.Format.Dotenv
