import PageBuilder.Chart.Bar
import PageBuilder.Chart.Line
import PageBuilder.Chart.Pie

/-!
# Chart geometry

A chart laid out in its style.  There is nothing to draw exactly if there are no labels or no
series.
-/

namespace PageBuilder.Chart

/-- A laid out chart. -/
inductive Geometry (α : Type) where
  | noData
  | bar (chart : BarChart α)
  | line (chart : LineChart α)
  | pie (chart : PieChart α)

/-- The height a line chart is drawn at. -/
def drawingHeight {α : Type} [Scalar α] (height : Option α) : α :=
  (height.filter fun h => Scalar.isFinite h && Scalar.below Scalar.zero h).getD
    (Scalar.ofNat defaultHeight)

/-- Lays out a chart.  The height matters to line charts alone. -/
def Geometry.of {α : Type} [Scalar α] (style : Style) (labels : List String)
    (series : List (Series α)) (height : Option α) : Geometry α :=
  match labels, series with
  | [], _ => .noData
  | _, [] => .noData
  | _, first :: _ =>
      match style with
      | .bar => .bar (.of labels series)
      | .line => .line (.of labels series (drawingHeight height))
      | .pie => .pie (.of labels first false)
      | .doughnut => .pie (.of labels first true)

/-- The geometry of a chart component. -/
def Input.geometry (input : Input) : Geometry Float :=
  .of input.style input.labels input.series (some (pixelHeight input.height))

end PageBuilder.Chart
