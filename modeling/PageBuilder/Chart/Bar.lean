import PageBuilder.Chart.Series

/-!
# Bar charts

One group of bars for each label, with one bar for each series.  Heights are fractions of the
largest number, so they lie between zero and one.
-/

namespace PageBuilder.Chart

/-- The bar of one series at one label. -/
structure Bar (α : Type) where
  /-- The position of the series. -/
  series : Nat
  seriesLabel : String
  value : α
  /-- The height as a fraction of the tallest possible bar. -/
  height : α
  /-- The least height in pixels, so that small values stay visible. -/
  minPixels : Nat
  color : String
  /-- Whether the value is printed above the bar. -/
  annotated : Bool

/-- The bars at one label. -/
structure BarGroup (α : Type) where
  label : String
  bars : List (Bar α)

/-- A laid out bar chart. -/
structure BarChart (α : Type) where
  /-- The value of a bar of full height. -/
  scale : α
  groups : List (BarGroup α)
  legend : List LegendEntry

variable {α : Type} [Scalar α]

/-- The bar of the series at position `index`, for a value. -/
def Bar.of (scale : α) (index : Nat) (series : Series α) (value : α) : Bar α :=
  { series := index
    seriesLabel := series.label
    value
    height := Scalar.clamp Scalar.zero (Scalar.ofNat 1) (value / scale)
    minPixels := if Scalar.below Scalar.zero value then 20 else 0
    color := series.displayColor
    annotated := index == 0 }

/-- Lays out a bar chart. -/
def BarChart.of (labels : List String) (series : List (Series α)) : BarChart α :=
  let scale := Series.scale series
  { scale
    groups := labels.mapIdx fun i label =>
      { label, bars := series.mapIdx fun j s => .of scale j s (s.valueAt i) }
    legend := Series.legend series }

end PageBuilder.Chart
