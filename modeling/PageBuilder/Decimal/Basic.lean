/-!
# Decimals

A decimal is a natural number of units `10 ^ exponent`.  This module holds the type and the two
ways a decimal is laid out as text: positionally, and with a decimal exponent.  Both write the
same digits; `Decimal.positional` never needs an exponent, whatever the size of the number.
-/

namespace PageBuilder

/-- The number `digits * 10 ^ exponent`. -/
structure Decimal where
  digits : Nat
  exponent : Int
deriving DecidableEq, Repr

namespace Decimal

/-! ## Digits as text -/

/-- The digits of a number, without leading zeros; zero is written `0`. -/
def digitText (n : Nat) : String := String.ofList (Nat.toDigits 10 n)

/-- A run of `n` zeros. -/
def zeros (n : Nat) : String := String.ofList (List.replicate n '0')

/-- How many digits a positive number has; zero has none. -/
def digitCount (n : Nat) : Nat := if n = 0 then 0 else (Nat.toDigits 10 n).length

/-! ## Normal form -/

/-- Moves trailing zeros of the digits into the exponent, at most `fuel` of them. -/
def stripZeros : Nat → Decimal → Decimal
  | 0, d => d
  | fuel + 1, d =>
      if d.digits ≠ 0 ∧ d.digits % 10 = 0 then stripZeros fuel ⟨d.digits / 10, d.exponent + 1⟩
      else d

/-- The decimal of equal value whose digits do not end in a zero. -/
def normalize (d : Decimal) : Decimal := stripZeros d.digits.log2 d

/-- The exponent of the leading digit. -/
def leading (d : Decimal) : Int := digitCount d.digits + d.exponent - 1

/-! ## Layout -/

/-- Positional notation.  `whole` is what follows a number that has no fractional digits. -/
def positional (whole : String) (d : Decimal) : String :=
  let text := Nat.toDigits 10 d.digits
  if 0 ≤ d.exponent then String.ofList text ++ zeros d.exponent.toNat ++ whole
  else
    let places := (-d.exponent).toNat
    if places < text.length then
      String.ofList (text.take (text.length - places)) ++ "." ++
        String.ofList (text.drop (text.length - places))
    else "0." ++ zeros (places - text.length) ++ String.ofList text

/-- Scientific notation: one digit before the point, no point after a single digit, and an
exponent that always carries its sign. -/
def scientific (d : Decimal) : String :=
  let text := Nat.toDigits 10 d.digits
  let fraction := text.drop 1
  let point := if fraction.isEmpty then "" else "."
  let sign := if 0 ≤ d.leading then "e+" else "e-"
  String.ofList (text.take 1) ++ point ++ String.ofList fraction ++ sign ++
    digitText d.leading.natAbs

end Decimal

end PageBuilder
