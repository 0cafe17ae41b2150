import SystemLoops.Format.Json

/-!
Reading JSON. The text is cut into tokens, and a machine with a stack of open arrays and objects reads
them one by one, so nothing is left over and the nesting depth is bounded.
-/

namespace SystemLoops.Format.Json

/-- A token of JSON text. -/
inductive Tok where
  | openBrace | closeBrace | openBracket | closeBracket | colon | comma
  | value (v : Json)
deriving Repr, Inhabited

/-! ### Strings -/

/-- The value of four hexadecimal digits at the front. -/
def hex4? (t : Text) : Option Nat :=
  match t with
  | a :: b :: c :: d :: _ => do
    let a ← Text.hexValue? a
    let b ← Text.hexValue? b
    let c ← Text.hexValue? c
    let d ← Text.hexValue? d
    some (((a * 16 + b) * 16 + c) * 16 + d)
  | _ => none

def pair? (high low : Nat) : Option Char :=
  if 0xD800 ≤ high && high < 0xDC00 && 0xDC00 ≤ low && low < 0xE000 then
    some (Char.ofNat (0x10000 + (high - 0xD800) * 0x400 + (low - 0xDC00)))
  else none

/-- The low surrogate written as an escape at the front. -/
def escapedUnit? (t : Text) : Option Nat :=
  match t with
  | 0x5C :: 0x75 :: rest => hex4? rest
  | _ => none

/-- The character of an escape after its backslash, and the bytes that it takes. A surrogate without
its partner stands for the replacement character. -/
def unescape? (t : Text) : Option (Char × Nat) :=
  match t with
  | [] => none
  | b :: rest =>
    if b == 0x22 || b == 0x5C || b == 0x2F then some (Char.ofNat b.toNat, 1)
    else if b == 0x62 then some ('\x08', 1)
    else if b == 0x66 then some ('\x0C', 1)
    else if b == 0x6E then some ('\n', 1)
    else if b == 0x72 then some ('\r', 1)
    else if b == 0x74 then some ('\t', 1)
    else if b == 0x75 then do
      let unit ← hex4? rest
      if 0xD800 ≤ unit && unit < 0xE000 then
        match (escapedUnit? (rest.drop 4)).bind (pair? unit) with
        | some c => some (c, 11)
        | none => some (Rune.replacement, 5)
      else some (Char.ofNat unit, 5)
    else none

/-- The characters of a string after its opening quote, and the bytes up to and including the closing
one. -/
def stringBody? : (skip : Nat) → Text → Option (List Char × Nat)
  | _, [] => none
  | skip + 1, _ :: rest => (stringBody? skip rest).map fun (cs, n) => (cs, n + 1)
  | 0, b :: rest =>
    if b == 0x22 then some ([], 1)
    else if b < 0x20 then none
    else if b == 0x5C then do
      let (c, width) ← unescape? rest
      let (cs, n) ← stringBody? width rest
      some (c :: cs, n + 1)
    else do
      let r := Rune.decode b rest
      let (cs, n) ← stringBody? (r.width - 1) rest
      some (r.char :: cs, n + 1)

/-! ### Numbers -/

def digits (t : Text) : Text :=
  t.takeWhile Text.isDecimal

/-- The number of bytes of the number at the front: a sign, an integer without leading zeros, a
fraction and an exponent. -/
def numberWidth? (t : Text) : Option Nat :=
  let sign := if t.head? == some 0x2D then 1 else 0
  let t := t.drop sign
  let whole := if t.head? == some 0x30 then 1 else (digits t).length
  if whole == 0 then none else
  let t := t.drop whole
  let fraction :=
    if t.head? == some 0x2E then
      let n := (digits (t.drop 1)).length
      if n == 0 then none else some (n + 1)
    else some 0
  fraction.bind fun fraction =>
    let t := t.drop fraction
    if t.head? == some 0x65 || t.head? == some 0x45 then
      let mark := if t[1]? == some 0x2B || t[1]? == some 0x2D then 2 else 1
      let n := (digits (t.drop mark)).length
      if n == 0 then none else some (sign + whole + fraction + mark + n)
    else some (sign + whole + fraction)

/-! ### Tokens -/

/-- The token that starts with byte `b`, and the bytes that it takes. -/
def token? (b : UInt8) (rest : Text) : Option (Tok × Nat) :=
  if b == 0x7B then some (.openBrace, 1)
  else if b == 0x7D then some (.closeBrace, 1)
  else if b == 0x5B then some (.openBracket, 1)
  else if b == 0x5D then some (.closeBracket, 1)
  else if b == 0x3A then some (.colon, 1)
  else if b == 0x2C then some (.comma, 1)
  else if b == 0x22 then
    (stringBody? 0 rest).map fun (cs, n) => (.value (.string (Text.ofChars cs)), n + 1)
  else if (Text.ofString "true").isPrefixOf (b :: rest) then some (.value (.bool true), 4)
  else if (Text.ofString "false").isPrefixOf (b :: rest) then some (.value (.bool false), 5)
  else if (Text.ofString "null").isPrefixOf (b :: rest) then some (.value .null, 4)
  else (numberWidth? (b :: rest)).map fun n => (.value (.number ((b :: rest).take n)), n)

/-- Whether a byte may stand between tokens. -/
def isBlank (b : UInt8) : Bool :=
  b == 0x20 || b == 0x09 || b == 0x0D || b == 0x0A

/-- The tokens of a text after its first `skip` bytes. -/
def tokensFrom? : (skip : Nat) → Text → Option (List Tok)
  | _, [] => some []
  | skip + 1, _ :: rest => tokensFrom? skip rest
  | 0, b :: rest =>
    if isBlank b then tokensFrom? 0 rest
    else match token? b rest with
      | none => none
      | some (tok, width) => (tokensFrom? (width - 1) rest).map (tok :: ·)

/-! ### The machine -/

/-- An open array or object; what it holds so far, the last first. -/
inductive Frame where
  | array (items : List Json)
  | object (fields : List (Text × Json)) (key : Text)
deriving Repr, Inhabited

/-- What may come next. -/
inductive Expects where
  | value | valueOrEnd | more | key | keyOrEnd | colon | nothing
deriving Repr, DecidableEq, Inhabited

structure Machine where
  stack : List Frame := []
  expects : Expects := .value
  result : Option Json := none
deriving Repr, Inhabited

namespace Machine

def maxNesting : Nat := 10000

/-- Take in a value that is complete. -/
def accept (m : Machine) (v : Json) : Machine :=
  match m.stack with
  | [] => { m with expects := .nothing, result := some v }
  | .array items :: rest => { m with stack := .array (v :: items) :: rest, expects := .more }
  | .object fields key :: rest =>
    { m with stack := .object ((key, v) :: fields) key :: rest, expects := .more }

/-- Open an array or object. -/
def push (m : Machine) (frame : Frame) (expects : Expects) : Option Machine :=
  if m.stack.length < maxNesting then some { m with stack := frame :: m.stack, expects } else none

/-- Close the innermost array or object. -/
def close (m : Machine) : Option Machine :=
  match m.stack with
  | [] => none
  | .array items :: rest => some ({ m with stack := rest }.accept (.array items.reverse))
  | .object fields _ :: rest => some ({ m with stack := rest }.accept (.object fields.reverse))

def inArray (m : Machine) : Bool :=
  match m.stack with
  | .array _ :: _ => true
  | _ => false

def inObject (m : Machine) : Bool :=
  match m.stack with
  | .object _ _ :: _ => true
  | _ => false

/-- Read one token. -/
def step (m : Machine) (tok : Tok) : Option Machine :=
  match m.expects, tok with
  | .value, .value v | .valueOrEnd, .value v => some (m.accept v)
  | .value, .openBrace | .valueOrEnd, .openBrace => m.push (.object [] []) .keyOrEnd
  | .value, .openBracket | .valueOrEnd, .openBracket => m.push (.array []) .valueOrEnd
  | .valueOrEnd, .closeBracket => m.close
  | .more, .closeBracket => if m.inArray then m.close else none
  | .more, .closeBrace => if m.inObject then m.close else none
  | .more, .comma => some { m with expects := if m.inArray then .value else .key }
  | .keyOrEnd, .closeBrace => m.close
  | .key, .value (.string key) | .keyOrEnd, .value (.string key) =>
    match m.stack with
    | .object fields _ :: rest =>
      some { m with stack := .object fields key :: rest, expects := .colon }
    | _ => none
  | .colon, .colon => some { m with expects := .value }
  | _, _ => none

end Machine

def parse? (t : Text) : Option Json := do
  let toks ← tokensFrom? 0 t
  let m ← toks.foldlM Machine.step {}
  m.result

end SystemLoops.Format.Json
