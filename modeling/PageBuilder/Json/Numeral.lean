import PageBuilder.Json.Basic
import PageBuilder.Decimal.Reading

/-!
# Numerals

Numbers as a JSON text writes them, and the number each stands for.  A numeral without a fraction
and without an exponent that fits in 64 bits is an integer; `-0` and every other numeral is a
double.

A double is built from a significand of at most 64 bits and a power of ten, with one rounding for
the significand and one for each power: digits that no longer fit in the significand are dropped,
and a dropped digit of the whole part counts as a factor of ten.
-/

namespace PageBuilder.Json

open Decimal (digitValue)

/-- The parts of a numeral. -/
structure Numeral where
  negative : Bool
  whole : List Char
  fraction : List Char
  exponent : Option Int

/-! ## Scanning -/

/-- An exponent after its mark: an optional sign and digits. -/
def scanExponent (cs : List Char) : Option (Int × List Char) :=
  let (negative, cs) :=
    match cs with
    | '-' :: r => (true, r)
    | '+' :: r => (false, r)
    | r => (false, r)
  let digits := cs.takeWhile Char.isDigit
  if digits.isEmpty then none
  else
    let n : Int := Decimal.ofDigits digits
    some (if negative then -n else n, cs.dropWhile Char.isDigit)

/-- The numeral at the start of a text and what follows it.  A whole part has no leading zero, and
a point and an exponent mark are followed by digits. -/
def scanNumeral (cs : List Char) : Option (Numeral × List Char) := do
  let (negative, cs) :=
    match cs with
    | '-' :: r => (true, r)
    | r => (false, r)
  let whole := cs.takeWhile Char.isDigit
  let cs := cs.dropWhile Char.isDigit
  guard (!whole.isEmpty && (whole.length == 1 || whole.head? != some '0'))
  let (fraction, cs) ←
    match cs with
    | '.' :: r =>
        let digits := r.takeWhile Char.isDigit
        if digits.isEmpty then none else some (digits, r.dropWhile Char.isDigit)
    | r => some ([], r)
  let (exponent, cs) ←
    match cs with
    | c :: r =>
        if c = 'e' || c = 'E' then (scanExponent r).map fun (e, rest) => (some e, rest)
        else some (none, c :: r)
    | [] => some (none, [])
  some (⟨negative, whole, fraction, exponent⟩, cs)

/-! ## Value -/

/-- Appends digits to a significand while it fits in 64 bits; the digits that are left over. -/
def absorb (significand : Nat) : List Char → Nat × List Char
  | [] => (significand, [])
  | c :: cs =>
      let longer := 10 * significand + digitValue c
      if maxWord < longer then (significand, c :: cs) else absorb longer cs

/-- A power of ten as a double. -/
def tenTo (n : Nat) : Float := .ofScientific 1 false n

/-- Divides by `10 ^ n`, in steps that are powers of ten in the range of doubles. -/
def scaleDown (x : Float) (n : Nat) : Float :=
  if n ≤ 308 then x / tenTo n
  else if x == 0 then x
  else scaleDown (x / tenTo 308) (n - 308)
termination_by n

/-- `significand * 10 ^ exponent`, or `none` if it is beyond the largest double. -/
def scaled (significand : Nat) (exponent : Int) : Option Float :=
  let x := Float.ofNat significand
  if exponent < 0 then some (scaleDown x exponent.natAbs)
  else if exponent ≤ 308 then
    let y := x * tenTo exponent.toNat
    if y.isInf then none else some y
  else if x == 0 then some x
  else none

/-- The largest decimal exponent that is told apart from still larger ones. -/
def exponentLimit : Int := 0x7FFFFFFF

/-- The double of a numeral, without its sign. -/
def Numeral.magnitude (n : Numeral) : Option Float :=
  let (whole, dropped) := absorb 0 n.whole
  let (significand, unread) := absorb whole n.fraction
  let shift : Int := dropped.length - (n.fraction.length - unread.length : Nat)
  match n.exponent with
  | none => scaled significand shift
  | some e =>
      if exponentLimit < e && significand != 0 then none
      else if exponentLimit < e.natAbs then some 0
      else scaled significand (max (-exponentLimit - 1) (min exponentLimit (shift + e)))

/-- The integer a numeral stands for, if it has neither fraction nor exponent and fits in 64
bits. -/
def Numeral.integer? (n : Numeral) : Option Int :=
  let value := Decimal.ofDigits n.whole
  if !n.fraction.isEmpty || n.exponent.isSome then none
  else if n.negative then
    if 0 < value && signedRange.1 ≤ -(value : Int) then some (-(value : Int)) else none
  else if value ≤ maxWord then some value
  else none

/-- The number a numeral stands for, or `none` if it is beyond the largest double. -/
def Numeral.value? (n : Numeral) : Option Number :=
  match n.integer? with
  | some i => some (.int i)
  | none => n.magnitude.map fun x => .float (if n.negative then -x else x)

end PageBuilder.Json
