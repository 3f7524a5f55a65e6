import PageBuilder.Blocks.Parts
import PageBuilder.Chart.Geometry

/-!
# Charts as markup

The geometry of a chart, drawn: bars as boxes, lines and slices as vector graphics.
-/

namespace PageBuilder.Blocks

open Markup
open Chart (coordinateText)

/-- The box of a chart, as high as its data asks for. -/
def chartBox (height declarations : String) (children : List Node) : Node :=
  el "div" [style [.set "height" height, .raw declarations]] children

/-! ## Bars -/

/-- One bar, with its value above it if it is annotated. -/
def bar (b : Chart.Bar Float) : Node :=
  let value := numberText b.value
  el "div"
    [("title", b.seriesLabel ++ ": " ++ value),
      style [
        .raw "flex: 1",
        .set "height" (coordinateText (b.height * 100) ++ "%"),
        .set "background" b.color,
        .raw "border-radius: 0.5rem 0.5rem 0 0",
        .set "min-height" (toString b.minPixels ++ "px"),
        .raw "transition: height 0.3s; position: relative"]]
    (if b.annotated then
      [leaf "div" "position: absolute; top: -20px; left: 50%; transform: translateX(-50%); font-size: 0.75rem; font-weight: 600; white-space: nowrap;"
        value]
    else [])

/-- The bars at one label. -/
def barGroup (g : Chart.BarGroup Float) : Node :=
  box "flex: 1; display: flex; flex-direction: column; align-items: center; gap: 0.5rem;"
    [box "width: 100%; height: 100%; display: flex; align-items: flex-end; justify-content: center; gap: 0.25rem;"
      (g.bars.map bar),
      leaf "div" "font-size: 0.875rem; font-weight: 600; margin-top: 0.5rem;" g.label]

/-- A bar chart. -/
def barChart (c : Chart.BarChart Float) (height : String) : Node :=
  chartBox height
    "display: flex; align-items: flex-end; justify-content: space-around; gap: 1rem; padding: 2rem"
    (c.groups.map barGroup)

/-! ## Lines -/

/-- A centered text at a point of a drawing. -/
def drawnText (x y : Float) (size color content : String) (attributes : List Attribute) : Node :=
  el "text"
    ([("x", coordinateText x), ("y", coordinateText y), ("text-anchor", "middle"),
      ("font-size", size), ("fill", color)] ++ attributes)
    [.text content]

/-- A gridline at a height, as wide as the plot. -/
def gridline (left right y : Float) : Node :=
  el "line"
    [("x1", coordinateText left), ("y1", coordinateText y), ("x2", coordinateText right),
      ("y2", coordinateText y), ("stroke", "#e2e8f0"), ("stroke-width", "1")]
    []

/-- A point of a line, with its value above it if the line is annotated. -/
def linePoint (l : Chart.Line Float) (p : Chart.LinePoint Float) : List Node :=
  let dot :=
    el "circle"
      [("cx", coordinateText p.x), ("cy", coordinateText p.y),
        ("r", toString Chart.LineChart.pointRadius), ("fill", l.color)]
      []
  if l.annotated then
    [dot, drawnText p.x p.annotationY "11" l.color (numberText p.value) [("font-weight", "600")]]
  else [dot]

/-- The line of one series. -/
def lineSeries (l : Chart.Line Float) : Node :=
  el "g" []
    (el "path"
      [("d", Chart.outlineText l.outline), ("fill", "none"), ("stroke", l.color),
        ("stroke-width", "3"), ("opacity", "0.8")]
      [] ::
    l.points.flatMap (linePoint l))

/-- A line chart. -/
def lineChart (c : Chart.LineChart Float) (height : String) : Node :=
  let left := Float.ofNat Chart.LineChart.margin
  let right := c.width - left
  let axis := c.axis.map fun a => drawnText a.x a.y "12" mutedColor a.text []
  chartBox height "display: flex; align-items: center; justify-content: center; padding: 2rem"
    [el "svg"
      [("width", numberText c.width), ("height", numberText c.height), css "overflow: visible;"]
      (c.gridlines.map (gridline left right) ++ axis ++ c.lines.map lineSeries)]

/-! ## Pies -/

/-- The outline of a slice. -/
def slicePath (hole : Nat) (s : Chart.Slice Float) : Node :=
  el "path"
    [("d", Chart.outlineText (s.outline hole)), ("fill", s.color), ("stroke", "white"),
      ("stroke-width", "2"), ("fill-rule", "evenodd")]
    []

/-- What the legend of a pie says of a slice. -/
def sliceLegend (s : Chart.Slice Float) : Node :=
  box "display: flex; align-items: center; gap: 0.75rem;"
    [el "div"
      [style [
        .raw "width: 16px; height: 16px",
        .set "background" s.color,
        .raw "border-radius: 0.25rem"]]
      [],
      leaf "span" "font-size: 0.875rem; font-weight: 500;" s.legendText]

/-- The total in the hole of a doughnut. -/
def doughnutTotal (c : Chart.PieChart Float) : List Node :=
  let center := Float.ofNat Chart.PieChart.center
  if c.doughnut then
    [drawnText center center "24" "#334155" (numberText c.total) [("font-weight", "700")],
      drawnText center (center + 20) "12" mutedColor "Total" []]
  else []

/-- A pie or doughnut chart. -/
def pieChart (c : Chart.PieChart Float) (height : String) : Node :=
  let size := toString Chart.PieChart.size
  let drawn := c.slices.filter fun s => 0 < s.sweep
  chartBox height
    "display: flex; align-items: center; justify-content: center; padding: 2rem; gap: 3rem"
    [el "svg" [("width", size), ("height", size), css "overflow: visible;"]
      (drawn.map (slicePath (Chart.PieChart.holeRadius c.doughnut)) ++ doughnutTotal c),
      box "display: flex; flex-direction: column; gap: 0.75rem;" (c.slices.map sliceLegend)]

/-! ## The block -/

/-- The names and colors of the series. -/
def legendRow (entries : List Chart.LegendEntry) : Node :=
  box "margin-top: 2rem; display: flex; gap: 2rem; justify-content: center; flex-wrap: wrap;"
    (entries.map fun e =>
      box "display: flex; align-items: center; gap: 0.5rem;"
        [el "div"
          [style [
            .raw "width: 20px; height: 20px",
            .set "background" e.color,
            .raw "border-radius: 0.25rem"]]
          [],
          leaf "span" "font-size: 0.875rem;" e.label])

/-- What is shown of a chart: the drawing and its legend, unless there is nothing to draw. -/
def drawing (input : Chart.Input) : Option (Node × List Chart.LegendEntry) :=
  match input.geometry with
  | .noData => none
  | .bar c => some (barChart c input.height, c.legend)
  | .line c => some (lineChart c input.height, c.legend)
  | .pie c => some (pieChart c input.height, [])

/-- Whether a style of charts has a legend of its series. -/
def hasLegend : Chart.Style → Bool
  | .bar => true
  | .line => true
  | _ => false

/-- A chart. -/
def graph (d : Object) : Node :=
  let input := Chart.Input.ofFields d
  let panel :=
    match drawing input with
    | none =>
        box "background: white; padding: 2rem; border-radius: 1rem; text-align: center;"
          [el "p" [style [.set "color" mutedColor]]
            [.text "No data to display. Add labels and datasets in properties."]]
    | some (chart, legend) =>
        el "div"
          [css "background: white; padding: 2rem; border-radius: 1rem; box-shadow: 0 4px 6px rgba(0,0,0,0.1);",
            ("data-chart", input.style.name)]
          (chart :: if input.showLegend && hasLegend input.style then [legendRow legend] else [])
  box "padding: 4rem 2rem; background: #f8fafc;"
    [box "max-width: 800px; margin: 0 auto;"
      [leaf "h2" "font-size: 2rem; text-align: center; margin-bottom: 3rem;" (d.text "heading"),
        panel]]

end PageBuilder.Blocks
