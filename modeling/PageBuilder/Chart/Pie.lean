import PageBuilder.Chart.Series
import PageBuilder.Chart.Palette
import PageBuilder.Chart.Outline

/-!
# Pie charts

One slice for each number of the first series.  The first slice starts at twelve o'clock, at -90
degrees, and each further one starts where the one before it ends, clockwise.  Negative numbers
count as zero.  A doughnut is a pie with a hole.
-/

namespace PageBuilder.Chart

/-- A slice of a pie. -/
structure Slice (α : Type) where
  label : String
  value : α
  color : String
  /-- The share of the total, out of a hundred. -/
  percentage : α
  /-- Where the slice starts, in degrees. -/
  start : α
  /-- The size of the slice, in degrees. -/
  sweep : α

/-- A laid out pie chart. -/
structure PieChart (α : Type) where
  doughnut : Bool
  total : α
  slices : List (Slice α)

namespace PieChart

/-- The side of the square that a pie is drawn in. -/
def size : Nat := 400

/-- Where the center of a pie is, on both axes. -/
def center : Nat := 200

/-- The radius of a pie. -/
def radius : Nat := 120

/-- The radius of the hole: none but for a doughnut. -/
def holeRadius (doughnut : Bool) : Nat := if doughnut then 60 else 0

end PieChart

variable {α : Type} [Scalar α]

open Scalar (ofNat zero below atMost)

namespace Slice

/-- Where the slice ends. -/
def stop (s : Slice α) : α := s.start + s.sweep

/-- Whether the slice takes more than half of the pie. -/
def isLarge (s : Slice α) : Bool := below (ofNat 180) s.sweep

/-- Whether the slice is the whole pie. -/
def isWhole (s : Slice α) : Bool := atMost (ofNat 360) s.sweep

end Slice

namespace PieChart

/-- The number drawn for a value. -/
def drawn (x : α) : α := if Scalar.isFinite x then Scalar.larger zero x else zero

/-- A value's share of the total, out of `whole`. -/
def share (total whole value : α) : α :=
  if below zero total then value / total * whole else zero

/-- The slices for some values, from the one at position `index` on, which starts at `start`. -/
def slicesFrom (labels : List String) (total : α) : Nat → α → List α → List (Slice α)
  | _, _, [] => []
  | index, start, value :: rest =>
      let slice : Slice α :=
        { label := labels.getD index ""
          value
          color := paletteColor index
          percentage := share total (ofNat 100) value
          start
          sweep := share total (ofNat 360) value }
      slice :: slicesFrom labels total (index + 1) slice.stop rest

/-- Lays out a pie chart. -/
def of (labels : List String) (series : Series α) (doughnut : Bool) : PieChart α :=
  let values := series.values.map drawn
  let total := Scalar.sum values
  { doughnut, total, slices := slicesFrom labels total 0 (zero - ofNat 90) values }

end PieChart

/-! ## Drawing -/

namespace PieChart

/-- The angle of one degree. -/
def degree : Float := 3.141592653589793 / 180

/-- The point at an angle on a circle around the center. -/
def pointAt (radius : Nat) (degrees : Float) : Float × Float :=
  let angle := degrees * degree
  (.ofNat center + .ofNat radius * angle.cos, .ofNat center + .ofNat radius * angle.sin)

section

variable (place : Nat → α → α × α)

/-- A move to a point on a circle; `place` says where the points of a circle are. -/
def moveTo (radius : Nat) (degrees : α) : Stroke α :=
  let (x, y) := place radius degrees
  .moveTo x y

/-- A line to a point on a circle. -/
def lineTo (radius : Nat) (degrees : α) : Stroke α :=
  let (x, y) := place radius degrees
  .lineTo x y

/-- An arc to a point on a circle. -/
def arcTo (radius : Nat) (large clockwise : Bool) (degrees : α) : Stroke α :=
  let (x, y) := place radius degrees
  .arcTo (ofNat radius) large clockwise x y

/-- A full circle, as two halves: an arc that ends where it starts draws nothing. -/
def circle (radius : Nat) (clockwise : Bool) (start : α) : List (Stroke α) :=
  [moveTo place radius start, arcTo place radius true clockwise (start + ofNat 180),
    arcTo place radius true clockwise start, .close]

/-- The outline of a whole pie: a full circle, and another one around the hole. -/
def wholeOutline (hole : Nat) (start : α) : List (Stroke α) :=
  circle place radius true start ++ if hole = 0 then [] else circle place hole false start

end

end PieChart

open PieChart in
/-- The outline of a slice whose points are where `place` says: a wedge from the center, or a piece
of a ring around the hole. -/
def Slice.outlineBy (place : Nat → α → α × α) (s : Slice α) (hole : Nat) : List (Stroke α) :=
  if s.isWhole then wholeOutline place hole s.start
  else if hole = 0 then
    [.moveTo (ofNat center) (ofNat center), lineTo place radius s.start,
      arcTo place radius s.isLarge true s.stop, .close]
  else
    [moveTo place radius s.start, arcTo place radius s.isLarge true s.stop,
      lineTo place hole s.stop, arcTo place hole s.isLarge false s.start, .close]

/-- The outline of a slice. -/
def Slice.outline (s : Slice Float) (hole : Nat) : List (Stroke Float) :=
  s.outlineBy PieChart.pointAt hole

/-- What the legend says of a slice. -/
def Slice.legendText (s : Slice Float) : String :=
  s.label ++ ": " ++ numberText s.value ++ " (" ++ Decimal.oneDecimal s.percentage ++ "%)"

end PageBuilder.Chart
