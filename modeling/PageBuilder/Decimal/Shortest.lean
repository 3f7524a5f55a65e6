import PageBuilder.Decimal.Basic

/-!
# Shortest decimals

Every finite double stands for an interval of reals, those that round to it.  The decimal chosen
for a double lies in that interval and has as few digits as any decimal there; among the decimals
of that length it is the nearest one.  All arithmetic is exact, over natural numbers with one
common denominator.
-/

namespace PageBuilder.Decimal

/-! ## The interval of a double -/

/-- The reals that round to one double: `low / unit` to `high / unit` around `mid / unit`, with the
ends included when `closed`. -/
structure Interval where
  low : Nat
  mid : Nat
  high : Nat
  unit : Nat
  closed : Bool

/-- The interval around `mantissa * 2 ^ exponent`.  Halfway to a neighbour is half a unit in the
last place, and only a quarter of it below a power of two (`narrow`). -/
def Interval.around (mantissa : Nat) (exponent : Int) (narrow : Bool) : Interval :=
  let scale := Nat.pow 2 (exponent - 2).toNat
  { low := (4 * mantissa - if narrow then 1 else 2) * scale
    mid := 4 * mantissa * scale
    high := (4 * mantissa + 2) * scale
    unit := Nat.pow 2 (2 - exponent).toNat
    closed := mantissa % 2 == 0 }

/-- Mantissa and exponent of a double whose bits are `bits`, and whether the gap below it is the
narrow one.  The sign bit is not looked at. -/
def mantissaExponent (bits : UInt64) : Nat × Int × Bool :=
  let biased := ((bits >>> 52) &&& 0x7FF).toNat
  let fraction := (bits &&& 0xFFFFFFFFFFFFF).toNat
  if biased = 0 then (fraction, -1074, false)
  else (fraction + Nat.pow 2 52, (biased : Int) - 1075, fraction == 0 && biased > 1)

/-- The interval of a finite double. -/
def Interval.ofBits (bits : UInt64) : Interval :=
  let (mantissa, exponent, narrow) := mantissaExponent bits
  .around mantissa exponent narrow

/-- Whether `digits * 10 ^ exponent` lies in the interval. -/
def Interval.contains (i : Interval) (d : Decimal) : Bool :=
  let value := d.digits * Nat.pow 10 d.exponent.toNat * i.unit
  let scale := Nat.pow 10 (-d.exponent).toNat
  if i.closed then i.low * scale ≤ value && value ≤ i.high * scale
  else i.low * scale < value && value < i.high * scale

/-- The exponent of the leading digit of the interval's middle. -/
def Interval.leading (i : Interval) : Int :=
  if i.unit ≤ i.mid then digitCount (i.mid / i.unit) - 1
  else -(digitCount ((i.unit + i.mid - 1) / i.mid - 1) : Int)

/-! ## The search -/

/-- Which of two equally near decimals is taken. -/
inductive Tie where
  | even
  | up
deriving DecidableEq

/-- The multiple of `10 ^ exponent` next below the middle of the interval. -/
def Interval.floorOn (i : Interval) (exponent : Int) : Nat :=
  i.mid * Nat.pow 10 (-exponent).toNat / (i.unit * Nat.pow 10 exponent.toNat)

/-- Compares the middle of the interval with the point halfway between `n` and `n + 1` units
of `10 ^ exponent`. -/
def Interval.compareHalf (i : Interval) (n : Nat) (exponent : Int) : Ordering :=
  compare (2 * i.mid * Nat.pow 10 (-exponent).toNat)
    ((2 * n + 1) * Nat.pow 10 exponent.toNat * i.unit)

/-- The nearest multiple of `10 ^ exponent` in the interval, if there is one. -/
def Interval.onGrid (i : Interval) (tie : Tie) (exponent : Int) : Option Decimal :=
  let n := i.floorOn exponent
  let below : Decimal := ⟨n, exponent⟩
  let above : Decimal := ⟨n + 1, exponent⟩
  match i.contains below && n != 0, i.contains above with
  | false, false => none
  | true, false => some below
  | false, true => some above
  | true, true =>
      match i.compareHalf n exponent with
      | .lt => some below
      | .gt => some above
      | .eq => if tie = .even ∧ n % 2 = 0 then some below else some above

/-- Tries `fuel` grids, each ten times finer than the one before, from `10 ^ exponent` on. -/
def Interval.search (i : Interval) (tie : Tie) : Nat → Int → Option Decimal
  | 0, _ => none
  | fuel + 1, exponent =>
      match i.onGrid tie exponent with
      | some d => some d
      | none => i.search tie fuel (exponent - 1)

/-- The exact value of `mantissa * 2 ^ exponent`. -/
def exact (mantissa : Nat) (exponent : Int) : Decimal :=
  if 0 ≤ exponent then ⟨mantissa * Nat.pow 2 exponent.toNat, 0⟩
  else ⟨mantissa * Nat.pow 5 (-exponent).toNat, exponent⟩

/-- The shortest decimal of a finite double, without its sign.  Seventeen digits always suffice;
were none of them to do, the exact value would be taken. -/
def shortest (tie : Tie) (bits : UInt64) : Decimal :=
  let (mantissa, exponent, narrow) := mantissaExponent bits
  if mantissa = 0 then ⟨0, 0⟩
  else
    let i := Interval.around mantissa exponent narrow
    ((i.search tie 17 i.leading).getD (exact mantissa exponent)).normalize

/-! ## Doubles as text -/

/-- Whether the sign bit is set. -/
def isNegative (x : Float) : Bool := x.toBits >>> 63 == 1

/-- The sign in front of a double's digits. -/
def signText (x : Float) : String := if isNegative x then "-" else ""

/-- A double in positional notation, whatever its size: integers without a point, and the special
values `NaN`, `inf` and `-inf`. -/
def plain (x : Float) : String :=
  if x.isNaN then "NaN"
  else if x.isInf then signText x ++ "inf"
  else signText x ++ (shortest .up x.toBits).positional ""

/-- A number with one digit after the point, rounded from the exact value of the double; halves
go to the even neighbour. -/
def oneDecimal (x : Float) : String :=
  if x.isNaN then "NaN"
  else if x.isInf then signText x ++ "inf"
  else
    let (mantissa, exponent, _) := mantissaExponent x.toBits
    let numerator := 10 * mantissa * Nat.pow 2 exponent.toNat
    let denominator := Nat.pow 2 (-exponent).toNat
    let floor := numerator / denominator
    let rounded :=
      match compare (2 * (numerator % denominator)) denominator with
      | .lt => floor
      | .gt => floor + 1
      | .eq => floor + floor % 2
    signText x ++ digitText (rounded / 10) ++ "." ++ digitText (rounded % 10)

end PageBuilder.Decimal
