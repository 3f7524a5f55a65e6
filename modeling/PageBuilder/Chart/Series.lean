import PageBuilder.Chart.Scalar
import PageBuilder.Fields

/-!
# Chart data

What a chart shows: labels along one axis and one or more series of numbers, as far as the data
of a chart component says.  Whatever is not a number counts as zero.  Series and labels need not
be equally long.
-/

namespace PageBuilder.Chart

/-- What a chart draws. -/
inductive Style where
  | bar
  | line
  | pie
  | doughnut
deriving DecidableEq, Repr

/-- The style of a name; bars unless the name is one of the others. -/
def Style.ofName : String → Style
  | "line" => .line
  | "pie" => .pie
  | "doughnut" => .doughnut
  | _ => .bar

/-- The name of a style. -/
def Style.name : Style → String
  | .bar => "bar"
  | .line => "line"
  | .pie => "pie"
  | .doughnut => "doughnut"

/-- A named series of numbers. -/
structure Series (α : Type) where
  label : String
  values : List α
  color : String

/-- A name and a color in a legend. -/
structure LegendEntry where
  label : String
  color : String
deriving DecidableEq, Repr

namespace Series

variable {α : Type}

/-- The color a series is drawn in. -/
def displayColor (s : Series α) : String := if s.color.isEmpty then "#0066cc" else s.color

/-- The name a legend shows for a series. -/
def displayLabel (s : Series α) : String := if s.label.isEmpty then "Dataset" else s.label

/-- The legend of some series. -/
def legend (series : List (Series α)) : List LegendEntry :=
  series.map fun s => ⟨s.displayLabel, s.displayColor⟩

variable [Scalar α]

/-- The number at a position, zero past the end. -/
def valueAt (s : Series α) (index : Nat) : α := s.values.getD index Scalar.zero

/-- The number drawn at full height: the largest one of all series, and at least one. -/
def scale (series : List (Series α)) : α :=
  ((series.flatMap (·.values)).filter Scalar.isFinite).foldl Scalar.larger (Scalar.ofNat 1)

end Series

/-! ## Data of a chart component -/

/-- The series that a value describes. -/
def Series.ofJson (v : Json) : Series Float :=
  let fields := v.entries
  { label := fields.text "label"
    values := (fields.list "data").map fun v => v.number?.getD 0
    color := fields.text "color" }

/-- What the data of a chart component says. -/
structure Input where
  style : Style
  labels : List String
  series : List (Series Float)
  /-- The height as it is written in a style sheet. -/
  height : String
  showLegend : Bool

/-- The height in pixels of a drawing for which none is given. -/
def defaultHeight : Nat := 400

/-- The height in pixels that a text such as `300px` asks for. -/
def pixelHeight (height : String) : Float :=
  match leadingInteger? height with
  | some n => if 0 < n then .ofInt n else .ofNat defaultHeight
  | none => .ofNat defaultHeight

/-- Reads the data of a chart component. -/
def Input.ofFields (fields : Object) : Input :=
  { style := .ofName (fields.text "chartType")
    labels := fields.strings "labels"
    series := (fields.list "datasets").map Series.ofJson
    height := fields.text "height"
    showLegend := fields.flag "showLegend" }

end PageBuilder.Chart
