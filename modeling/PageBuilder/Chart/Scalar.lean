/-!
# Scalars

A chart is laid out in numbers of any kind that can be added, multiplied, divided and compared.
What is drawn is laid out in doubles; laws about the layout are stated in exact numbers.
-/

namespace PageBuilder.Chart

/-- Numbers a chart can be laid out in. -/
class Scalar (α : Type) extends Add α, Sub α, Mul α, Div α where
  /-- The number equal to a natural number. -/
  ofNat : Nat → α
  /-- Whether one number is less than another. -/
  below : α → α → Bool
  /-- Whether one number is at most another. -/
  atMost : α → α → Bool
  /-- Whether this is a number and not an infinity. -/
  isFinite : α → Bool

namespace Scalar

variable {α : Type} [Scalar α]

/-- Zero. -/
def zero : α := ofNat 0

/-- The larger of two numbers; the first unless the second is larger. -/
def larger (x y : α) : α := if below x y then y else x

/-- The number in an interval nearest to `x`. -/
def clamp (low high x : α) : α := if below x low then low else if below high x then high else x

/-- The sum of some numbers, added from left to right. -/
def sum (xs : List α) : α := xs.foldl (· + ·) zero

end Scalar

instance : Scalar Float where
  ofNat := Float.ofNat
  below x y := x < y
  atMost x y := x ≤ y
  isFinite := Float.isFinite

end PageBuilder.Chart
