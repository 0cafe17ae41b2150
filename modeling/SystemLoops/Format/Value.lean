import SystemLoops.Format.Double

namespace SystemLoops.Format

/-- A value of a configuration file. -/
inductive Value where
  | null
  | bool (b : Bool)
  | int (n : Int)
  | float (x : Double)
  /-- Infinity, or no number at all. -/
  | notFinite (spelling : Text)
  | timestamp
  | text (t : Text)
  | list (items : List Value)
  | map (entries : List (Text × Value))
deriving Repr, Inhabited

namespace Value

def isNull : Value → Bool
  | .null => true
  | _ => false

end Value

/-- The value of digits in a base, at least one. -/
def digitsIn? (base : Nat) (t : Text) : Option Nat :=
  if t.isEmpty then none else
  t.foldlM (fun n b => match Text.hexValue? b with
    | some d => if d < base then some (n * base + d) else none
    | none => none) 0

/-- Whether a text is a decimal numeral with an optional sign, fraction and exponent, and at least one
digit before the exponent. -/
def isDecimalNumeral (t : Text) : Bool :=
  let t := if t.head? == some 0x2D || t.head? == some 0x2B then t.drop 1 else t
  let whole := t.takeWhile Text.isDecimal
  let t := t.drop whole.length
  let hasPoint := t.head? == some 0x2E
  let fraction := if hasPoint then (t.drop 1).takeWhile Text.isDecimal else []
  let t := if hasPoint then t.drop (1 + fraction.length) else t
  let exponentFits := match t with
    | [] => true
    | mark :: rest =>
      let rest := if rest.head? == some 0x2D || rest.head? == some 0x2B then rest.drop 1 else rest
      (mark == 0x65 || mark == 0x45) && !rest.isEmpty && rest.all Text.isDecimal
  !(whole.isEmpty && fraction.isEmpty) && exponentFits

/-- A numeral without its underscores, when each of them stands between two digits. -/
def withoutUnderscores? (t : Text) : Option Text :=
  let rec fits (afterDigit : Bool) : Text → Bool
    | [] => true
    | b :: rest =>
      if b == 0x5F then afterDigit && (rest.head?.any Text.isDecimal) && fits false rest
      else fits (Text.isDecimal b) rest
  if fits false t then some (t.filter (· != 0x5F)) else none

/-- The double of a decimal numeral, when it is in range. -/
def double? (t : Text) : Option Double :=
  if isDecimalNumeral t then Double.ofDecimal (Decimal.ofNumeral t) else none

end SystemLoops.Format
