import SystemLoops.Format.Value
import SystemLoops.Format.Toml.Quoted

namespace SystemLoops.Format.Toml

def afterWord? (word : String) (t : Text) : Option Text :=
  if (Text.ofString word).isPrefixOf t then some (t.drop (Text.ofString word).length) else none

/-! ### Numbers -/

/-- Digits without their underscores, each of which stands between two digits of any base. -/
def groupedDigits? (t : Text) : Option Text :=
  let rec fits (afterDigit : Bool) : Text → Bool
    | [] => afterDigit
    | b :: rest => if b == 0x5F then afterDigit && fits false rest else fits true rest
  if fits false t then some (t.filter (· != 0x5F)) else none

/-- A number within a signed word of 64 bits. -/
def word? (n : Int) : Option Int :=
  if -(Nat.pow 2 63 : Nat) ≤ n && n < (Nat.pow 2 63 : Nat) then some n else none

/-- The value of digits behind the mark of a base. -/
def basedInteger? (base : Nat) (t : Text) : Option Int := do
  let n ← digitsIn? base (← groupedDigits? t)
  word? n

/-- Whether digits have no zero in front, unless it is the only one. -/
def hasNoZeroInFront (t : Text) : Bool :=
  t.head? != some 0x30 || t.length == 1

/-- A sign at the front, or none, and the rest. -/
def signed (t : Text) : Bool × Text :=
  match t with
  | 0x2D :: rest => (true, rest)
  | 0x2B :: rest => (false, rest)
  | t => (false, t)

def decimalInteger? (t : Text) : Option Int := do
  let (negative, digits) := signed t
  let digits ← groupedDigits? digits
  if !hasNoZeroInFront digits then none
  let n ← digitsIn? 10 digits
  word? (if negative then -(n : Int) else n)

/-- The value of a numeral with a fraction or an exponent; digits stand on both sides of a point. -/
def fraction? (t : Text) : Option Double := do
  let t ← withoutUnderscores? t
  let whole := (signed t).2.takeWhile Text.isDecimal
  let rest := (signed t).2.drop whole.length
  let fitsPoint := rest.head? != some 0x2E || (rest.drop 1).head?.any Text.isDecimal
  if whole.isEmpty || !hasNoZeroInFront whole || !fitsPoint then none
  double? t

private def infinity (negative : Bool) : Value :=
  .notFinite (Text.ofString (if negative then "-.inf" else ".inf"))

private def noNumber : Value :=
  .notFinite (Text.ofString ".nan")

private def isNumeralByte (b : UInt8) : Bool :=
  Text.isDecimal b || (Text.ofString "+-_.eE").contains b

/-- A decimal number at the front. -/
private def decimal? (t : Text) : Option (Value × Text) :=
  let numeral := t.takeWhile isNumeralByte
  let rest := t.drop numeral.length
  let isSign := numeral == [0x2B] || numeral == [0x2D]
  match rest.head? with
  | some 0x69 => do
    let rest ← afterWord? "inf" rest
    if isSign || numeral.isEmpty then some (infinity (numeral == [0x2D]), rest) else none
  | some 0x6E => do
    let rest ← afterWord? "nan" rest
    if isSign || numeral.isEmpty then some (noNumber, rest) else none
  | _ =>
    if numeral.any fun b => (Text.ofString ".eE").contains b then
      (fraction? numeral).map fun x => (.float x, rest)
    else (decimalInteger? numeral).map fun n => (.int n, rest)

/-- A number at the front. A zero stands alone, unless a mark of a base, a point or an exponent follows. -/
def number? (t : Text) : Option (Value × Text) :=
  let based := fun (base : Nat) (digits : Text) =>
    let numeral := digits.takeWhile fun b => b == 0x5F || (Text.hexValue? b).any (· < base)
    (basedInteger? base numeral).map fun n => (Value.int n, digits.drop numeral.length)
  match t with
  | 0x30 :: mark :: b :: rest =>
    if mark == 0x2E || mark == 0x65 || mark == 0x45 then decimal? t
    else if mark == 0x78 then based 16 (b :: rest)
    else if mark == 0x6F then based 8 (b :: rest)
    else if mark == 0x62 then based 2 (b :: rest)
    else some (.int 0, t.drop 1)
  | t => decimal? t

/-! ### Points in time -/

/-- Exactly `width` digits at the front, within bounds. -/
private def digits? (width low high : Nat) (t : Text) : Option (Nat × Text) :=
  let digits := (t.take width).takeWhile Text.isDecimal
  let n := Text.digitsValue digits
  if digits.length == width && low ≤ n && n ≤ high then some (n, t.drop width) else none

private def byte? (b : UInt8) (t : Text) : Option Text :=
  if t.head? == some b then some (t.drop 1) else none

def daysIn (year month : Nat) : Nat :=
  if month == 2 then
    if year % 4 == 0 && (year % 100 != 0 || year % 400 == 0) then 29 else 28
  else if [4, 6, 9, 11].contains month then 30 else 31

private def afterDate? (t : Text) : Option Text := do
  let (year, t) ← digits? 4 0 9999 t
  let (month, t) ← digits? 2 1 12 (← byte? 0x2D t)
  let (_, t) ← digits? 2 1 (daysIn year month) (← byte? 0x2D t)
  return t

/-- What follows a time of day with an optional fraction of a second. -/
private def afterTime? (t : Text) : Option Text := do
  let (_, t) ← digits? 2 0 23 t
  let (_, t) ← digits? 2 0 59 (← byte? 0x3A t)
  let (_, t) ← digits? 2 0 59 (← byte? 0x3A t)
  match t with
  | 0x2E :: rest => if rest.head?.any Text.isDecimal then some (rest.dropWhile Text.isDecimal) else none
  | t => some t

/-- Whether a text is an offset from universal time. -/
private def isZone (t : Text) : Bool :=
  match t with
  | [0x5A] | [0x7A] => true
  | sign :: rest =>
    (sign == 0x2B || sign == 0x2D) && (do
      let (_, rest) ← digits? 2 0 23 rest
      let (_, rest) ← digits? 2 0 59 (← byte? 0x3A rest)
      some rest.isEmpty).getD false
  | [] => false

/-- Whether a text is a date, a time of day, or both, then with an optional offset. -/
def isMoment (t : Text) : Bool :=
  match afterDate? t with
  | some [] => true
  | some (sep :: rest) =>
    (sep == 0x54 || sep == 0x74 || sep == 0x20)
      && (afterTime? rest).any fun zone => zone.isEmpty || isZone zone
  | none => (afterTime? t).any List.isEmpty

/-- The bytes of a point in time at the front. One blank may stand in it, if digits follow. -/
def momentBytes : (blankSeen : Bool) → Text → Text
  | _, [] => []
  | blankSeen, b :: rest =>
    if Text.isDecimal b || (Text.ofString "-+:.TtZz").contains b then b :: momentBytes blankSeen rest
    else if b == 0x20 && !blankSeen && rest.head?.any Text.isDecimal then b :: momentBytes true rest
    else []

/-- Whether a point in time starts a text: two digits of an hour, or four of a year. -/
def startsMoment (t : Text) : Bool :=
  let digits := t.takeWhile Text.isDecimal
  let next := (t.drop digits.length).head?
  (digits.length == 2 && next == some 0x3A) || (digits.length == 4 && next == some 0x2D)

/-! ### Values -/

/-- A value without quotes at the front. -/
def plain? (t : Text) : Option (Value × Text) :=
  if t.head? == some 0x74 then (afterWord? "true" t).map fun rest => (.bool true, rest)
  else if t.head? == some 0x66 then (afterWord? "false" t).map fun rest => (.bool false, rest)
  else if startsMoment t then
    let moment := momentBytes false t
    if isMoment moment then some (.timestamp, t.drop moment.length) else none
  else number? t

end SystemLoops.Format.Toml
