import Mathlib.Data.List.GetD
import PageBuilder.Chart.Geometry
import PageBuilder.Proofs.Chart.Outline

/-!
# Charts follow their data

Labels, series and their numbers may be of any lengths.  How each style of charts copes with that
is said by what its layout has to follow: bars and lines follow the labels, with zeros where a
series is too short, and pies follow the numbers of the first series, with empty names where labels
are missing (`Geometry.follows_data`).

All of this holds in numbers of any kind, whatever their arithmetic is: positions and angles are
compared as they were computed.  Only the text of a line is one of doubles.
-/

namespace PageBuilder.Chart

variable {α : Type} [Scalar α]

open Scalar (ofNat zero)

/-! ## What a layout follows -/

/-- The number of a series at a position, and zero where the series is too short. -/
def Series.numberAt (s : Series α) (index : Nat) : α :=
  if h : index < s.values.length then s.values[index] else zero

/-- A bar stands for a number of a series. -/
structure Bar.Follows (s : Series α) (index position : Nat) (bar : Bar α) : Prop where
  series : bar.series = position
  seriesLabel : bar.seriesLabel = s.label
  value : bar.value = s.numberAt index
  annotated : bar.annotated = true ↔ position = 0

/-- A group has one bar for each series, in their order. -/
structure BarGroup.Follows (label : String) (series : List (Series α)) (index : Nat)
    (group : BarGroup α) : Prop where
  label : group.label = label
  length : group.bars.length = series.length
  bars : ∀ (position : Nat) (s : Series α) (bar : Bar α),
    series[position]? = some s → group.bars[position]? = some bar → bar.Follows s index position

/-- A bar chart has one group for each label, in their order. -/
structure BarChart.Follows (labels : List String) (series : List (Series α))
    (chart : BarChart α) : Prop where
  length : chart.groups.length = labels.length
  groups : ∀ (index : Nat) (label : String) (group : BarGroup α),
    labels[index]? = some label → chart.groups[index]? = some group →
      group.Follows label series index

/-- A line has one point for each label and right in line with it, and goes from point to point in
their order. -/
structure Line.Follows (axis : List (AxisLabel α)) (s : Series α) (position : Nat)
    (line : Line α) : Prop where
  label : line.label = s.label
  xs : line.points.map LinePoint.x = axis.map AxisLabel.x
  values : ∀ (index : Nat) (point : LinePoint α),
    line.points[index]? = some point → point.value = s.numberAt index
  outline : ∃ first rest, line.points = first :: rest ∧
    line.outline = .moveTo first.x first.y :: rest.map fun p => .lineTo p.x p.y
  annotated : line.annotated = true ↔ position = 0

/-- A line chart has one label of its axis for each label, and one line for each series. -/
structure LineChart.Follows (labels : List String) (series : List (Series α))
    (chart : LineChart α) : Prop where
  axis : chart.axis.map AxisLabel.text = labels
  length : chart.lines.length = series.length
  lines : ∀ (position : Nat) (s : Series α) (line : Line α),
    series[position]? = some s → chart.lines[position]? = some line →
      line.Follows chart.axis s position

/-- A pie has one slice for each number of a series, in their order, and the slices stand side by
side from twelve o'clock on. -/
structure PieChart.Follows (labels : List String) (s : Series α) (chart : PieChart α) : Prop where
  values : chart.slices.map Slice.value = s.values.map PieChart.drawn
  labels : ∀ (index : Nat) (slice : Slice α), chart.slices[index]? = some slice →
    slice.label = if h : index < labels.length then labels[index] else ""
  colors : ∀ (index : Nat) (slice : Slice α), chart.slices[index]? = some slice →
    palette[index % 7]? = some slice.color
  first : ∀ slice, chart.slices[0]? = some slice → slice.start = zero - ofNat 90
  next : ∀ (index : Nat) (slice next : Slice α), chart.slices[index]? = some slice →
    chart.slices[index + 1]? = some next → next.start = slice.stop

/-- A layout of a style follows labels and series; bars and lines need all series, pies the first
one only. -/
def Geometry.Follows (style : Style) (labels : List String) (series : List (Series α)) :
    Geometry α → Prop
  | .noData => labels = [] ∨ series = []
  | .bar chart => style = .bar ∧ chart.Follows labels series
  | .line chart => style = .line ∧ chart.Follows labels series
  | .pie chart =>
      (style = .pie ∧ chart.doughnut = false ∨ style = .doughnut ∧ chart.doughnut = true) ∧
        ∃ first rest, series = first :: rest ∧ chart.Follows labels first

/-! ## Bars -/

theorem getD_eq_dite {β : Type} (xs : List β) (index : Nat) (default : β) :
    xs.getD index default = if h : index < xs.length then xs[index] else default := by
  split
  · rename_i h
    exact List.getD_eq_getElem xs default h
  · rename_i h
    exact List.getD_eq_default xs default (Nat.le_of_not_lt h)

theorem Series.valueAt_eq (s : Series α) (index : Nat) : s.valueAt index = s.numberAt index :=
  getD_eq_dite s.values index zero

theorem Bar.follows_of (scale : α) (s : Series α) (index position : Nat) :
    (Bar.of scale position s (s.valueAt index)).Follows s index position where
  series := rfl
  seriesLabel := rfl
  value := s.valueAt_eq index
  annotated := by simp [Bar.of]

theorem BarChart.follows_of (labels : List String) (series : List (Series α)) :
    (BarChart.of labels series).Follows labels series where
  length := List.length_mapIdx
  groups := by
    intro index label group hlabel hgroup
    simp only [BarChart.of, List.getElem?_mapIdx, hlabel, Option.map_some,
      Option.some.injEq] at hgroup
    subst hgroup
    refine ⟨rfl, List.length_mapIdx, ?_⟩
    intro position s bar hs hbar
    simp only [List.getElem?_mapIdx, hs, Option.map_some, Option.some.injEq] at hbar
    subst hbar
    exact Bar.follows_of _ s index position

/-! ## Lines -/

omit [Scalar α] in
/-- An outline begins with a move to the first point; lines to the others follow. -/
theorem Line.outline_cons {line : Line α} {first : LinePoint α} {rest : List (LinePoint α)}
    (h : line.points = first :: rest) :
    line.outline = .moveTo first.x first.y :: rest.map fun p => .lineTo p.x p.y := by
  have hrest : rest.mapIdx (fun i p => if i + 1 = 0 then .moveTo p.x p.y else .lineTo p.x p.y) =
      rest.map fun p => Stroke.lineTo p.x p.y :=
    List.ext_getElem (by simp) (by simp)
  rw [outline, h, List.mapIdx_cons, if_pos rfl, hrest]

theorem LineChart.follows_of {labels : List String} (hlabels : labels ≠ [])
    (series : List (Series α)) (height : α) :
    (LineChart.of labels series height).Follows labels series where
  axis := List.ext_getElem (by simp [of]) (by simp [of])
  length := List.length_mapIdx
  lines := by
    intro position s line hs hline
    simp only [of, List.getElem?_mapIdx, hs, Option.map_some, Option.some.injEq] at hline
    have hpoints : line.points ≠ [] := by
      rw [← hline]
      simpa using hlabels
    obtain ⟨first, rest, hcons⟩ := List.exists_cons_of_ne_nil hpoints
    subst hline
    refine ⟨rfl, List.ext_getElem (by simp [of]) (by simp [of]), ?_,
      ⟨first, rest, hcons, Line.outline_cons hcons⟩, by simp⟩
    intro index point hpoint
    rw [List.getElem?_map, Option.map_eq_some_iff] at hpoint
    obtain ⟨i, hi, rfl⟩ := hpoint
    obtain ⟨hlt, rfl⟩ := List.getElem?_eq_some_iff.mp hi
    rw [List.getElem_range]
    exact s.valueAt_eq index

/-! ## Pies -/

theorem PieChart.map_value_slicesFrom (labels : List String) (total : α) (values : List α)
    (index : Nat) (start : α) :
    (slicesFrom labels total index start values).map Slice.value = values := by
  induction values generalizing index start with
  | nil => rfl
  | cons value rest ih => rw [slicesFrom, List.map_cons, ih]

theorem PieChart.start_slicesFrom {labels : List String} {total : α} {values : List α}
    {index : Nat} {start : α} {slice : Slice α}
    (h : (slicesFrom labels total index start values)[0]? = some slice) : slice.start = start := by
  cases values with
  | nil => cases h
  | cons value rest =>
      cases h
      rfl

/-- Each slice has the label and the color of its position. -/
theorem PieChart.position_slicesFrom {labels : List String} {total : α} {values : List α}
    {index : Nat} {start : α} {position : Nat} {slice : Slice α}
    (h : (slicesFrom labels total index start values)[position]? = some slice) :
    slice.label = labels.getD (index + position) "" ∧
      slice.color = paletteColor (index + position) := by
  induction values generalizing index start position with
  | nil => cases h
  | cons value rest ih =>
      cases position with
      | zero =>
          cases h
          exact ⟨rfl, rfl⟩
      | succ position =>
          rw [slicesFrom, List.getElem?_cons_succ] at h
          rw [← Nat.succ_add_eq_add_succ]
          exact ih h

/-- Each slice but the first starts where the one before it stops. -/
theorem PieChart.next_slicesFrom {labels : List String} {total : α} {values : List α}
    {index : Nat} {start : α} {position : Nat} {slice next : Slice α}
    (h : (slicesFrom labels total index start values)[position]? = some slice)
    (hnext : (slicesFrom labels total index start values)[position + 1]? = some next) :
    next.start = slice.stop := by
  induction values generalizing index start position with
  | nil => cases h
  | cons value rest ih =>
      rw [slicesFrom, List.getElem?_cons_succ] at hnext
      cases position with
      | zero =>
          cases h
          exact start_slicesFrom hnext
      | succ position =>
          rw [slicesFrom, List.getElem?_cons_succ] at h
          exact ih h hnext

theorem palette_getElem? (index : Nat) : palette[index % 7]? = some (paletteColor index) := by
  have hlength : palette.length = 7 := rfl
  have hlt : index % 7 < palette.length := Nat.mod_lt index (by decide)
  rw [paletteColor, hlength, List.getD_eq_getElem?_getD, List.getElem?_eq_getElem hlt,
    Option.getD_some]

theorem PieChart.follows_of (labels : List String) (s : Series α) (doughnut : Bool) :
    (PieChart.of labels s doughnut).Follows labels s where
  values := map_value_slicesFrom _ _ _ _ _
  labels := by
    intro index slice h
    rw [(position_slicesFrom h).1, Nat.zero_add, getD_eq_dite]
  colors := by
    intro index slice h
    rw [(position_slicesFrom h).2, Nat.zero_add, palette_getElem?]
  first := fun slice h => start_slicesFrom h
  next := fun index slice next h hnext => next_slicesFrom h hnext

example : (zero - ofNat 90 : Float) = -90 := rfl

/-! ## Charts -/

theorem Geometry.of_eq_noData_iff (style : Style) (labels : List String)
    (series : List (Series α)) (height : Option α) :
    Geometry.of style labels series height = .noData ↔ labels = [] ∨ series = [] := by
  cases labels with
  | nil => simp [Geometry.of]
  | cons label labels =>
      cases series with
      | nil => simp [Geometry.of]
      | cons first rest => cases style <;> simp [Geometry.of]

theorem Geometry.follows_of (style : Style) (labels : List String) (series : List (Series α))
    (height : Option α) : (Geometry.of style labels series height).Follows style labels series := by
  cases labels with
  | nil => exact Or.inl rfl
  | cons label labels =>
      cases series with
      | nil => exact Or.inr rfl
      | cons first rest =>
          cases style with
          | bar => exact ⟨rfl, BarChart.follows_of _ _⟩
          | line => exact ⟨rfl, LineChart.follows_of (List.cons_ne_nil label labels) _ _⟩
          | pie => exact ⟨Or.inl ⟨rfl, rfl⟩, first, rest, rfl, PieChart.follows_of _ _ _⟩
          | doughnut => exact ⟨Or.inr ⟨rfl, rfl⟩, first, rest, rfl, PieChart.follows_of _ _ _⟩

/-- Every layout follows its data, and there is nothing to draw exactly if there are no labels or no
series.  The text of a line is one move to its first point and one line to each other point, in
their order. -/
theorem Geometry.follows_data (style : Style) (labels : List String) (series : List (Series Float))
    (height : Option Float) :
    (Geometry.of style labels series height = .noData ↔ labels = [] ∨ series = []) ∧
      (Geometry.of style labels series height).Follows style labels series ∧
      ∀ chart, Geometry.of style labels series height = .line chart → ∀ line ∈ chart.lines,
        ∃ first rest, line.points = first :: rest ∧
          Text.splitAt ' ' (outlineText line.outline) =
            "M" :: coordinateText first.x :: coordinateText first.y ::
              rest.flatMap fun p => ["L", coordinateText p.x, coordinateText p.y] := by
  have hfollows := Geometry.follows_of style labels series height
  refine ⟨Geometry.of_eq_noData_iff style labels series height, hfollows, ?_⟩
  intro chart hchart line hline
  rw [hchart] at hfollows
  obtain ⟨-, hfollows⟩ := hfollows
  obtain ⟨position, hposition⟩ := List.getElem?_of_mem hline
  have hlt : position < series.length :=
    hfollows.length ▸ (List.getElem?_eq_some_iff.mp hposition).1
  obtain ⟨first, rest, hpoints, houtline⟩ :=
    (hfollows.lines position _ line (List.getElem?_eq_getElem hlt) hposition).outline
  refine ⟨first, rest, hpoints, ?_⟩
  rw [houtline, splitAt_outlineText (List.cons_ne_nil _ _), List.flatMap_cons, List.flatMap_map]
  rfl

end PageBuilder.Chart
