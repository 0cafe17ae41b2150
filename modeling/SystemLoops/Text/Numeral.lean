import SystemLoops.Text.Basic

namespace SystemLoops.Text

/-- Why a text is not a value. -/
inductive NumeralProblem where
  | malformed
  | outOfRange
deriving Repr, DecidableEq, Inhabited

def NumeralProblem.message : NumeralProblem → String
  | .malformed => "invalid syntax"
  | .outOfRange => "value out of range"

/-- The value of a digit in any base. -/
def digitOf? (b : UInt8) : Option Nat :=
  let l := b ||| 0x20
  if isDecimal b then some (b.toNat - 0x30)
  else if 0x61 ≤ l && l ≤ 0x7A then some (l.toNat - 0x57)
  else none

def numeralBase (t : Text) : Nat × Text :=
  match t with
  | 0x30 :: mark :: d :: rest =>
    let m := mark ||| 0x20
    if m == 0x62 then (2, d :: rest)
    else if m == 0x6F then (8, d :: rest)
    else if m == 0x78 then (16, d :: rest)
    else (8, mark :: d :: rest)
  | 0x30 :: rest => (8, rest)
  | t => (10, t)

/-- The value of digits in a base. A value that grows beyond 64 bits is out of range, whatever
follows. -/
def valueIn (base : Nat) : (value : Nat) → Text → Except NumeralProblem Nat
  | value, [] => .ok value
  | value, b :: rest =>
    if b == 0x5F then valueIn base value rest
    else match digitOf? b with
      | some d =>
        if base ≤ d then .error .malformed
        else if Nat.pow 2 64 ≤ value * base + d then .error .outOfRange
        else valueIn base (value * base + d) rest
      | none => .error .malformed

/-- Whether every underscore stands between two digits, or between the mark of a base and a digit. -/
def underscoresFit (t : Text) : Bool :=
  let rec fit (afterDigit : Bool) : Text → Bool
    | [] => true
    | b :: rest =>
      if b == 0x5F then afterDigit && rest.head?.any (· != 0x5F) && fit false rest
      else fit true rest
  match t with
  | 0x30 :: mark :: rest =>
    let m := mark ||| 0x20
    if m == 0x62 || m == 0x6F || m == 0x78 then fit true rest else fit false t
  | t => fit false t

/-- The value of an unsigned numeral. -/
def natural (t : Text) : Except NumeralProblem Nat :=
  if t.isEmpty then .error .malformed else
  let (base, digits) := numeralBase t
  match valueIn base 0 digits with
  | .error e => .error e
  | .ok n => if underscoresFit t then .ok n else .error .malformed

/-- The value of a numeral with an optional sign, as a signed word of 64 bits. -/
def integer (t : Text) : Except NumeralProblem Int :=
  match t with
  | 0x2D :: rest => match natural rest with
    | .ok n => if n ≤ Nat.pow 2 63 then .ok (-(n : Int)) else .error .outOfRange
    | .error e => .error e
  | t =>
    match natural (if t.head? == some 0x2B then t.drop 1 else t) with
    | .ok n => if n < Nat.pow 2 63 then .ok n else .error .outOfRange
    | .error e => .error e

def truth? (t : Text) : Option Bool :=
  let spelled := fun words : List String => words.any fun w => Text.ofString w == t
  if spelled ["1", "t", "T", "true", "TRUE", "True"] then some true
  else if spelled ["0", "f", "F", "false", "FALSE", "False"] then some false
  else none

end SystemLoops.Text
