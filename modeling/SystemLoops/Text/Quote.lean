import SystemLoops.Text.Rune
import SystemLoops.Text.Unicode.Category

namespace SystemLoops.Text

/-- The short escape of a control character, if it has one. -/
def shortEscape? (n : Nat) : Option UInt8 :=
  match n with
  | 0x07 => some 0x61
  | 0x08 => some 0x62
  | 0x0C => some 0x66
  | 0x0A => some 0x6E
  | 0x0D => some 0x72
  | 0x09 => some 0x74
  | 0x0B => some 0x76
  | _ => none

/-- One character as it stands between quotes of the kind `mark`. -/
def escapeChar (mark : UInt8) (c : Char) : Text :=
  let n := c.toNat
  if n == mark.toNat || n == 0x5C then [0x5C, UInt8.ofNat n]
  else if Unicode.isPrintable c then ofChar c
  else match shortEscape? n with
    | some letter => [0x5C, letter]
    | none =>
      if n < 0x20 || n == 0x7F then [0x5C, 0x78] ++ hexPadded 2 n
      else if n < 0x10000 then [0x5C, 0x75] ++ hexPadded 4 n
      else [0x5C, 0x55] ++ hexPadded 8 n

def quotedFrom (mark : UInt8) : (skip : Nat) → Text → Text
  | _, [] => []
  | skip + 1, _ :: rest => quotedFrom mark skip rest
  | 0, b :: rest =>
    let r := Rune.decode b rest
    let shown := if r.wellFormed then escapeChar mark r.char else [0x5C, 0x78] ++ hexPadded 2 b.toNat
    shown ++ quotedFrom mark (r.width - 1) rest

/-- A text between double quotes. -/
def quote (t : Text) : Text :=
  [0x22] ++ quotedFrom 0x22 0 t ++ [0x22]

/-- A character between single quotes. -/
def quoteChar (c : Char) : Text :=
  [0x27] ++ escapeChar 0x27 c ++ [0x27]

/-- The value of a run of digits in a base, when every byte is such a digit. -/
def digitsIn? (base : Nat) (t : Text) : Option Nat :=
  t.foldlM (fun n b => do
    let d ← hexValue? b
    if d < base then some (n * base + d) else none) 0

/-- The text that an escape after a backslash stands for, and the number of bytes it takes. -/
def unescape? (mark : UInt8) (t : Text) : Option (Text × Nat) :=
  match t with
  | [] => none
  | b :: rest =>
    let point (digits : Nat) : Option (Text × Nat) := do
      if rest.length < digits then none
      let n ← digitsIn? 16 (rest.take digits)
      if n > 0x10FFFF || (0xD800 ≤ n && n < 0xE000) then none
      some (ofChar (Char.ofNat n), digits + 1)
    if b == 0x61 then some ([0x07], 1)
    else if b == 0x62 then some ([0x08], 1)
    else if b == 0x66 then some ([0x0C], 1)
    else if b == 0x6E then some ([0x0A], 1)
    else if b == 0x72 then some ([0x0D], 1)
    else if b == 0x74 then some ([0x09], 1)
    else if b == 0x76 then some ([0x0B], 1)
    else if b == 0x5C || b == mark then some ([b], 1)
    else if b == 0x78 then do
      if rest.length < 2 then none
      let n ← digitsIn? 16 (rest.take 2)
      some ([UInt8.ofNat n], 3)
    else if b == 0x75 then point 4
    else if b == 0x55 then point 8
    else if 0x30 ≤ b && b ≤ 0x37 then do
      if rest.length < 2 then none
      let n ← digitsIn? 8 (t.take 3)
      if n > 255 then none
      some ([UInt8.ofNat n], 3)
    else none

def unquotedFrom (mark : UInt8) : (skip : Nat) → Text → Option Text
  | _, [] => some []
  | skip + 1, _ :: rest => unquotedFrom mark skip rest
  | 0, b :: rest =>
    if b == mark || b == newline then none
    else if b == 0x5C then do
      let (meaning, width) ← unescape? mark rest
      return meaning ++ (← unquotedFrom mark width rest)
    else do
      let r := Rune.decode b rest
      return ofChar r.char ++ (← unquotedFrom mark (r.width - 1) rest)

/-- The text that a quoted or raw string literal denotes. -/
def unquote? (t : Text) : Option Text :=
  match t with
  | b :: rest =>
    match rest.reverse with
    | e :: middle =>
      let body := middle.reverse
      if b != e then none
      else if b == 0x60 then
        if body.contains 0x60 then none else some (body.filter (· != 0x0D))
      else if b == 0x22 then
        if body.any (fun c => c == 0x5C || c == newline || c == b) then unquotedFrom b 0 body
        else some body
      else none
    | [] => none
  | [] => none

end SystemLoops.Text
