import PageBuilder.Decimal.Basic

/-!
# Numbers read from text

The texts that name a double, and which double each names.  A text is an optional sign followed by
`inf`, `infinity` or `nan` in any case, or by digits with at most one point and an optional decimal
exponent; the point needs a digit on one of its sides.  Blanks and digit separators are refused.
The double is the one nearest to the number written.
-/

namespace PageBuilder

/-- The largest number that fits in 64 unsigned bits. -/
def maxWord : Nat := 0xFFFFFFFFFFFFFFFF

/-- The smallest and the largest number that fit in 64 signed bits. -/
def signedRange : Int × Int := (-0x8000000000000000, 0x7FFFFFFFFFFFFFFF)

namespace Decimal

/-! ## Digits -/

/-- The value of an ASCII digit. -/
def digitValue (c : Char) : Nat := c.toNat - '0'.toNat

/-- The number written by a run of ASCII digits. -/
def ofDigits (cs : List Char) : Nat := cs.foldl (fun n c => 10 * n + digitValue c) 0

/-- The number a text of one or more ASCII digits writes. -/
def natural? (cs : List Char) : Option Nat :=
  if !cs.isEmpty && cs.all Char.isDigit then some (ofDigits cs) else none

/-- The number a text writes: an optional sign and one or more ASCII digits. -/
def integer? : List Char → Option Int
  | '-' :: cs => (natural? cs).map fun n => -(n : Int)
  | '+' :: cs => (natural? cs).map fun n => (n : Int)
  | cs => (natural? cs).map fun n => (n : Int)

/-- The number of at most 64 bits that a text writes: an optional plus and ASCII digits. -/
def word? (cs : List Char) : Option Nat :=
  let digits :=
    match cs with
    | '+' :: r => r
    | r => r
  (natural? digits).filter (· ≤ maxWord)

/-! ## Rounding to a double -/

/-- The double nearest to `digits * 10 ^ exponent`.  Numbers far outside the range of doubles are
settled by their size, so that no power of ten grows beyond need. -/
def toFloat (digits : Nat) (exponent : Int) : Float :=
  let size := digitCount digits + exponent
  if digits = 0 || size < -400 then 0
  else if 400 < size then 1 / 0
  else .ofScientific digits (exponent < 0) exponent.natAbs
where
  digitCount (n : Nat) : Int := (Nat.toDigits 10 n).length

/-! ## The grammar -/

/-- The number after the exponent mark `e` or `E`, zero if there is no mark, or `none` if the mark
is not followed by a number. -/
def exponent? : List Char → Option Int
  | [] => some 0
  | c :: cs => if c = 'e' || c = 'E' then integer? cs else none

/-- An unsigned number: digits, at most one point among them, and an exponent. -/
def unsigned? (cs : List Char) : Option Float :=
  let whole := cs.takeWhile Char.isDigit
  let rest := cs.dropWhile Char.isDigit
  let (fraction, tail) :=
    match rest with
    | '.' :: r => (r.takeWhile Char.isDigit, r.dropWhile Char.isDigit)
    | r => ([], r)
  if whole.isEmpty && fraction.isEmpty then none
  else (exponent? tail).map fun e => toFloat (ofDigits (whole ++ fraction)) (e - fraction.length)

/-- A number or one of the special names, without a sign. -/
def magnitude? (cs : List Char) : Option Float :=
  let name := String.ofList (cs.map Char.toLower)
  if name = "inf" || name = "infinity" then some (1 / 0)
  else if name = "nan" then some (0 / 0)
  else unsigned? cs

/-- The double that a text names. -/
def float? (s : String) : Option Float :=
  match s.toList with
  | '-' :: cs => (magnitude? cs).map fun x => -x
  | '+' :: cs => magnitude? cs
  | cs => magnitude? cs

end Decimal

end PageBuilder
