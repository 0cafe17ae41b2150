import SystemLoops.Text.Basic

namespace SystemLoops.Format

/-- A decimal number: a sign, and digits times a power of ten. -/
structure Decimal where
  negative : Bool
  digits : Nat
  exponent : Int
deriving Repr, DecidableEq, Inhabited

/-- A finite double: a sign, and a mantissa times a power of two. -/
structure Double where
  negative : Bool
  mantissa : Nat
  exponent : Int
deriving Repr, DecidableEq, Inhabited

namespace Decimal

/-- The number that a numeral of digits, an optional fraction and an optional exponent denotes. -/
def ofNumeral (t : Text) : Decimal :=
  let negative := t.head? == some 0x2D
  let t := if negative || t.head? == some 0x2B then t.drop 1 else t
  let isMark := fun b : UInt8 => b == 0x65 || b == 0x45
  let mantissa := t.takeWhile fun b => !isMark b
  let tail := (t.dropWhile fun b => !isMark b).drop 1
  let whole := mantissa.takeWhile (· != 0x2E)
  let fraction := (mantissa.dropWhile (· != 0x2E)).drop 1
  let down := tail.head? == some 0x2D
  let power := Text.digitsValue (if down || tail.head? == some 0x2B then tail.drop 1 else tail)
  { negative, digits := Text.digitsValue (whole ++ fraction)
    exponent := (if down then -(power : Int) else power) - fraction.length }

end Decimal

namespace Double

/-- The quotient rounded to the nearest whole number, a half to the even one. -/
def roundDiv (p q : Nat) : Nat :=
  let n := p / q
  let twice := 2 * (p % q)
  if twice < q then n else if q < twice then n + 1 else n + n % 2

/-- The double nearest to `p / q`; nothing when it is out of range. -/
def ofRatio (negative : Bool) (p q : Nat) : Option Double :=
  if p == 0 then some ⟨negative, 0, 0⟩ else
  let guess : Int := (Nat.log2 p : Int) - Nat.log2 q
  let atLeast := fun k : Int => if 0 ≤ k then q * Nat.pow 2 k.toNat ≤ p else q ≤ p * Nat.pow 2 (-k).toNat
  let top := if atLeast guess then guess else guess - 1
  let e := max (top - 52) (-1074)
  let m := if 0 ≤ e then roundDiv p (q * Nat.pow 2 e.toNat) else roundDiv (p * Nat.pow 2 (-e).toNat) q
  let (m, e) := if m == Nat.pow 2 53 then (Nat.pow 2 52, e + 1) else (m, e)
  if 971 < e then none else some ⟨negative, m, e⟩

/-- The double nearest to a decimal number; nothing when it is out of range. -/
def ofDecimal (d : Decimal) : Option Double :=
  if d.digits == 0 then some ⟨d.negative, 0, 0⟩ else
  let size := ((toString d.digits).length : Int) + d.exponent
  if 310 < size then none
  else if size < -330 then some ⟨d.negative, 0, 0⟩
  else if 0 ≤ d.exponent then ofRatio d.negative (d.digits * Nat.pow 10 d.exponent.toNat) 1
  else ofRatio d.negative d.digits (Nat.pow 10 (-d.exponent).toNat)

def isWhole (x : Double) : Bool :=
  0 ≤ x.exponent || x.mantissa % Nat.pow 2 (-x.exponent).toNat == 0

def isNegative (x : Double) : Bool :=
  x.negative && x.mantissa != 0

/-- The whole part of a double, with its sign. -/
def truncate (x : Double) : Int :=
  let n := if 0 ≤ x.exponent then x.mantissa * Nat.pow 2 x.exponent.toNat
    else x.mantissa / Nat.pow 2 (-x.exponent).toNat
  if x.negative then -(n : Int) else n

end Double

end SystemLoops.Format
