import SystemLoops.Format.Value

namespace SystemLoops.Format.Yaml

/-- The meaning of a plain scalar. -/
inductive Scalar where
  | null
  | bool (b : Bool)
  | int (n : Int)
  | float (x : Double)
  /-- Infinity or no number at all. -/
  | notFinite (spelling : Text)
  | timestamp
  | text
deriving Repr, DecidableEq, Inhabited

private def words (spellings : List String) (t : Text) : Bool :=
  spellings.any fun s => Text.ofString s == t

/-! ### Integers -/

/-- The value of an unsigned numeral whose base shows in its front; a lone zero in front means
eight. -/
def natural? (t : Text) : Option Nat :=
  match t with
  | 0x30 :: mark :: rest =>
    let m := mark ||| 0x20
    if m == 0x78 then digitsIn? 16 rest
    else if m == 0x62 then digitsIn? 2 rest
    else if m == 0x6F then digitsIn? 8 rest
    else digitsIn? 8 (mark :: rest)
  | t => digitsIn? 10 t

/-- The value of a numeral with an optional sign, within 64 bits. -/
def integer? (t : Text) : Option Int :=
  match t with
  | 0x2D :: rest => match natural? rest with
    | some n => if n ≤ Nat.pow 2 63 then some (-(n : Int)) else none
    | none => none
  | 0x2B :: rest => match natural? rest with
    | some n => if n < Nat.pow 2 63 then some n else none
    | none => none
  | t => match natural? t with
    | some n => if n < Nat.pow 2 64 then some n else none
    | none => none

/-! ### Points in time -/

/-- One or two digits at the front, within bounds, and the rest. -/
private def short? (low high : Nat) (t : Text) : Option (Nat × Text) :=
  let ds := (t.take 2).takeWhile Text.isDecimal
  if ds.isEmpty then none else
  let n := Text.digitsValue ds
  if low ≤ n && n ≤ high then some (n, t.drop ds.length) else none

/-- Exactly two digits at the front, up to a bound, and the rest. -/
private def pair? (high : Nat) (t : Text) : Option (Nat × Text) :=
  let ds := (t.take 2).takeWhile Text.isDecimal
  if ds.length == 2 && Text.digitsValue ds ≤ high then some (Text.digitsValue ds, t.drop 2) else none

private def expect? (b : UInt8) (t : Text) : Option Text :=
  if t.head? == some b then some (t.drop 1) else none

private def daysIn (year month : Nat) : Nat :=
  if month == 2 then
    if year % 4 == 0 && (year % 100 != 0 || year % 400 == 0) then 29 else 28
  else if [4, 6, 9, 11].contains month then 30 else 31

/-- A date at the front and the rest. -/
private def date? (t : Text) : Option Text := do
  let year := Text.digitsValue (t.take 4)
  let t ← expect? 0x2D (t.drop 4)
  let (month, t) ← short? 1 12 t
  let t ← expect? 0x2D t
  let (day, t) ← short? 1 31 t
  if day ≤ daysIn year month then some t else none

/-- A time of day at the front, with an optional fraction of a second, and the rest. -/
private def time? (t : Text) : Option Text := do
  let (_, t) ← short? 0 23 t
  let t ← expect? 0x3A t
  let (_, t) ← short? 0 59 t
  let t ← expect? 0x3A t
  let (_, t) ← short? 0 59 t
  let fraction := (t.drop 1).takeWhile Text.isDecimal
  if (t.head? == some 0x2E || t.head? == some 0x2C) && !fraction.isEmpty then
    some (t.drop (1 + fraction.length))
  else some t

/-- Whether a text is an offset from universal time. -/
private def isZone (t : Text) : Bool :=
  match t with
  | [0x5A] => true
  | sign :: rest =>
    (sign == 0x2B || sign == 0x2D) && (do
      let (_, rest) ← pair? 24 rest
      let rest ← expect? 0x3A rest
      let (_, rest) ← pair? 60 rest
      some rest.isEmpty).getD false
  | [] => false

/-- Whether a text is a date, or a date and a time. -/
def isTimestamp (t : Text) : Bool :=
  (t.takeWhile Text.isDecimal).length == 4 &&
    match date? t with
    | none => false
    | some [] => true
    | some (sep :: rest) =>
      if sep == 0x20 then time? (rest.dropWhile (· == 0x20)) == some []
      else (sep == 0x54 || sep == 0x74) && ((time? rest).map isZone).getD false

/-! ### Meaning -/

/-- The value of a numeral with the mark of base two or eight, and a sign before or behind the mark. -/
def markedInteger? (t : Text) : Option Int :=
  let signed := fun (base : Nat) (digits : Text) => match digits with
    | 0x2B :: rest => (digitsIn? base rest).map Int.ofNat
    | 0x2D :: rest => (digitsIn? base rest).map fun n => -(n : Int)
    | digits => (digitsIn? base digits).map Int.ofNat
  let value := match t with
    | 0x30 :: 0x62 :: rest => signed 2 rest
    | 0x30 :: 0x6F :: rest => signed 8 rest
    | _ => none
  value.filter fun n => -(Nat.pow 2 63 : Nat) ≤ n && n < (Nat.pow 2 63 : Nat)

private def number (t : Text) : Scalar :=
  let bare := t.filter (· != 0x5F)
  match integer? bare with
  | some n => .int n
  | none => match double? bare with
    | some x => .float x
    | none => match markedInteger? bare with
      | some n => .int n
      | none => .text

/-- The meaning of a plain scalar. -/
def resolve (t : Text) : Scalar :=
  if words ["", "~", "null", "Null", "NULL"] t then .null
  else if words ["true", "True", "TRUE"] t then .bool true
  else if words ["false", "False", "FALSE"] t then .bool false
  else if words [".nan", ".NaN", ".NAN", ".inf", ".Inf", ".INF", "+.inf", "+.Inf", "+.INF",
      "-.inf", "-.Inf", "-.INF"] t then .notFinite t
  else match t with
    | [] => .null
    | b :: _ =>
      if b == 0x2E then
        match (withoutUnderscores? t).bind double? with
        | some x => .float x
        | none => .text
      else if Text.isDecimal b || b == 0x2B || b == 0x2D then
        if isTimestamp t then .timestamp else number t
      else .text

/-- Whether a text is a number in base sixty, such as a time of day. -/
def isSexagesimal (t : Text) : Bool :=
  let t := if t.head? == some 0x2D || t.head? == some 0x2B then t.drop 1 else t
  match Text.splitOn 0x3A t with
  | first :: second :: more =>
    let groups := second :: more
    let lead := match first with
      | b :: rest => Text.isDecimal b && rest.all fun b => Text.isDecimal b || b == 0x5F
      | [] => false
    let isGroup := fun g : Text => match g with
      | [a] => Text.isDecimal a
      | [a, b] => 0x30 ≤ a && a ≤ 0x35 && Text.isDecimal b
      | _ => false
    let last := groups.getLast?.getD []
    let (lastGroup, tail) := (last.takeWhile (· != 0x2E), last.dropWhile (· != 0x2E))
    lead && groups.dropLast.all isGroup && isGroup lastGroup
      && (tail.drop 1).all fun b => Text.isDecimal b || b == 0x5F
  | _ => false

/-- Whether a text was a boolean in earlier versions of the format. -/
def isOldBool (t : Text) : Bool :=
  words ["y", "Y", "yes", "Yes", "YES", "on", "On", "ON",
    "n", "N", "no", "No", "NO", "off", "Off", "OFF"] t

end SystemLoops.Format.Yaml
