import PageBuilder.Chart.Series
import PageBuilder.Chart.Outline

/-!
# Line charts

One line for each series, through one point for each label.  The drawing is 600 units wide and
has a margin of 60 units on every side; the vertical axis of a drawing points downwards.
-/

namespace PageBuilder.Chart

/-- A label below the plot. -/
structure AxisLabel (α : Type) where
  text : String
  x : α
  y : α

/-- The point of one series at one label. -/
structure LinePoint (α : Type) where
  x : α
  y : α
  value : α

/-- The line of one series. -/
structure Line (α : Type) where
  label : String
  color : String
  points : List (LinePoint α)
  /-- Whether the values are printed above the points. -/
  annotated : Bool

/-- A laid out line chart. -/
structure LineChart (α : Type) where
  width : α
  height : α
  /-- The value drawn at the first gridline. -/
  scale : α
  /-- The heights of the gridlines, from top to bottom. -/
  gridlines : List α
  axis : List (AxisLabel α)
  lines : List (Line α)
  legend : List LegendEntry

namespace LineChart

/-- The width of a drawing. -/
def drawingWidth : Nat := 600

/-- The margin on every side of a drawing. -/
def margin : Nat := 60

/-- How many gridlines are drawn. -/
def gridlineCount : Nat := 5

/-- How far below the plot its labels stand. -/
def labelDrop : Nat := 20

/-- How far above its point a value is printed. -/
def annotationRise : Nat := 15

/-- The radius of a point. -/
def pointRadius : Nat := 5

end LineChart

variable {α : Type} [Scalar α]

open Scalar (ofNat)

/-- Where the value of a point is printed. -/
def LinePoint.annotationY (p : LinePoint α) : α := p.y - ofNat LineChart.annotationRise

/-- The outline of a line: a move to its first point and lines to the others. -/
def Line.outline (l : Line α) : List (Stroke α) :=
  l.points.mapIdx fun i p => if i = 0 then .moveTo p.x p.y else .lineTo p.x p.y

namespace LineChart

/-- The horizontal position of one of `count` labels. -/
def xAt (count index : Nat) : α :=
  ofNat margin + ofNat index * ofNat (drawingWidth - 2 * margin) / ofNat (max count 2 - 1)

/-- The height of the plot within a drawing. -/
def plotHeight (height : α) : α := height - ofNat (2 * margin)

/-- The vertical position of a value. -/
def yAt (height scale value : α) : α :=
  height - ofNat margin - value / scale * plotHeight height

/-- Lays out a line chart. -/
def of (labels : List String) (series : List (Series α)) (height : α) : LineChart α :=
  let scale := Series.scale series
  let count := labels.length
  { width := ofNat drawingWidth
    height
    scale
    gridlines := (List.range gridlineCount).map fun i =>
      ofNat margin + ofNat i * plotHeight height / ofNat (gridlineCount - 1)
    axis := labels.mapIdx fun i text =>
      { text, x := xAt count i, y := height - ofNat margin + ofNat labelDrop }
    lines := series.mapIdx fun j s =>
      { label := s.label
        color := s.displayColor
        points := (List.range count).map fun i =>
          let value := s.valueAt i
          { x := xAt count i, y := yAt height scale value, value }
        annotated := j == 0 }
    legend := Series.legend series }

end LineChart

end PageBuilder.Chart
