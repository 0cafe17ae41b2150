import SystemLoops.Format.Double

namespace SystemLoops.Format.Double

/-- The quotient of two numbers as a fraction: `above / below`. -/
structure Ratio where
  above : Nat
  below : Nat
deriving Repr, DecidableEq, Inhabited

namespace Ratio

/-- A number times a power of a base. -/
def scaled (n base : Nat) (e : Int) : Ratio :=
  if 0 ≤ e then ⟨n * Nat.pow base e.toNat, 1⟩ else ⟨n, Nat.pow base (-e).toNat⟩

/-- Whether a fraction is below another one. -/
def less (a b : Ratio) : Bool :=
  a.above * b.below < b.above * a.below

def distance (a b : Ratio) : Ratio :=
  let x := a.above * b.below
  let y := b.above * a.below
  ⟨max x y - min x y, a.below * b.below⟩

end Ratio

def ratio (x : Double) : Ratio :=
  .scaled x.mantissa 2 x.exponent

/-- The fractions that read back as a double: the middles to its two neighbours, and whether they belong
to it. The neighbour below a power of two is only half as far away. -/
def readsBack (x : Double) (r : Ratio) : Bool :=
  let narrow := x.mantissa == Nat.pow 2 52 && -1074 < x.exponent
  let low := Ratio.scaled (if narrow then 4 * x.mantissa - 1 else 4 * x.mantissa - 2) 2 (x.exponent - 2)
  let high := Ratio.scaled (4 * x.mantissa + 2) 2 (x.exponent - 2)
  if x.mantissa % 2 == 0 then !r.less low && !high.less r else low.less r && r.less high

/-- The number of digits in front of the point of a fraction; zero or less below one. -/
def magnitude (r : Ratio) : Int :=
  let guess : Int := ((toString r.above).length : Int) - (toString r.below).length
  if r.less (.scaled 1 10 guess) then guess else guess + 1

/-- The nearest decimal with a count of digits that reads back, if there is one. -/
def decimalOf? (x : Double) (count : Nat) : Option Decimal :=
  let r := x.ratio
  let exponent := magnitude r - count
  let unit := Ratio.scaled 1 10 exponent
  let below := r.above * unit.below / (r.below * unit.above)
  let grid := fun n : Nat => Ratio.scaled n 10 exponent
  let candidates := [below, below + 1].filter fun n => x.readsBack (grid n)
  let best := match candidates with
    | [a, b] => if ((grid b).distance r).less ((grid a).distance r) then some b else some a
    | other => other.head?
  best.map fun digits => { negative := x.negative, digits, exponent }

def shortest (x : Double) : Decimal :=
  if x.mantissa == 0 then ⟨x.negative, 0, 0⟩
  else ((List.range 17).findSome? fun n => x.decimalOf? (n + 1)).getD
    { negative := x.negative, digits := 0, exponent := 0 }

/-- The shortest numeral of a double without an exponent. -/
def positional (x : Double) : Text :=
  let d := x.shortest
  let digits := Text.ofNat d.digits
  let sign : Text := if d.negative then "-" else ""
  if 0 ≤ d.exponent then sign ++ digits ++ Text.replicate d.exponent.toNat 0x30
  else
    let places := (-d.exponent).toNat
    let padded := Text.replicate (places + 1 - digits.length) 0x30 ++ digits
    let whole := padded.take (padded.length - places)
    let fraction := Text.trimEnd (· == 0x30) (padded.drop (padded.length - places))
    sign ++ whole ++ (if fraction.isEmpty then [] else Text.ofString "." ++ fraction)

end SystemLoops.Format.Double
