import Mathlib.Tactic.Linarith
import Mathlib.Tactic.Ring
import PageBuilder.Proofs.Chart.Exact

/-!
# Upright line charts

The vertical axis of a drawing points downwards, so a line chart is upright if the larger of two
numbers is drawn at the smaller coordinate (`LineChart.Upright`).  In exact numbers the height of
the drawing alone decides whether it is.

All that a plot shows is at a depth below the first gridline, measured against the height of the
plot: the gridlines at depths from zero to one, and a number the deeper the smaller it is.  Its
coordinate is the level of that depth (`LineChart.level`).  The two margins take 120 units of the
height.  So levels follow depths in a drawing that is higher than that, and run against them in one
that is lower; at that height itself there is one level only (`orientation_of_height`).  Across its width
a chart is in order at every height (`LineChart.spread_of`).
-/

namespace PageBuilder.Chart

open Exact
open Scalar (ofNat)

namespace LineChart

/-! ## Charts in order -/

/-- The points of a chart, line by line. -/
def points {α : Type} (chart : LineChart α) : List (LinePoint α) := chart.lines.flatMap (·.points)

/-- An upright chart: its gridlines go from top to bottom, the larger of two numbers is drawn above
the other one, and numbers from zero to the scale between the first and the last gridline. -/
structure Upright (chart : LineChart ℚ) : Prop where
  gridlines : chart.gridlines.Pairwise (· < ·)
  above : ∀ p ∈ chart.points, ∀ q ∈ chart.points, p.value < q.value → q.y < p.y
  between : ∀ p ∈ chart.points, 0 ≤ p.value → p.value ≤ chart.scale →
    ∃ first last, chart.gridlines.head? = some first ∧ chart.gridlines.getLast? = some last ∧
      first ≤ p.y ∧ p.y ≤ last

/-- A chart upside down: its gridlines go from bottom to top, and the larger of two numbers is drawn
below the other one. -/
structure Inverted (chart : LineChart ℚ) : Prop where
  gridlines : chart.gridlines.Pairwise (· > ·)
  below : ∀ p ∈ chart.points, ∀ q ∈ chart.points, p.value < q.value → p.y < q.y

/-- A flat chart: all its gridlines and points are at the upper margin. -/
structure Flat (chart : LineChart ℚ) : Prop where
  gridlines : ∀ y ∈ chart.gridlines, y = margin
  points : ∀ p ∈ chart.points, p.y = margin

/-- A chart spread over its width: the positions of its labels increase, from the left margin on and
up to the right one if there is more than one label. -/
structure Spread (chart : LineChart ℚ) : Prop where
  increasing : (chart.axis.map AxisLabel.x).Pairwise (· < ·)
  first : (chart.axis.map AxisLabel.x).head? = some (margin : ℚ)
  last : 2 ≤ chart.axis.length →
    (chart.axis.map AxisLabel.x).getLast? = some (drawingWidth - margin : ℚ)

/-! ## Depths and their levels -/

/-- The vertical coordinate of a depth: the first gridline is at depth zero, the last one at depth
one. -/
def level (height depth : ℚ) : ℚ := margin + depth * plotHeight height

/-- The depths of the gridlines. -/
def gridlineDepths : List ℚ := [0, 1 / 4, 1 / 2, 3 / 4, 1]

/-- The depth of a number. -/
def depth (scale value : ℚ) : ℚ := 1 - value / scale

theorem plotHeight_eq (height : ℚ) : plotHeight height = height - 120 := rfl

theorem level_zero (height : ℚ) : level height 0 = margin := by
  rw [level, zero_mul, add_zero]

theorem level_one (height : ℚ) : level height 1 = height - margin := by
  rw [level, plotHeight_eq, margin]
  push_cast
  ring

theorem level_strictMono {height : ℚ} (h : 120 < height) : StrictMono (level height) := by
  intro a b hab
  have hplot : 0 < plotHeight height := sub_pos.mpr h
  exact add_lt_add_right (mul_lt_mul_of_pos_right hab hplot) _

theorem level_strictAnti {height : ℚ} (h : height < 120) : StrictAnti (level height) := by
  intro a b hab
  have hplot : plotHeight height < 0 := sub_neg.mpr h
  exact add_lt_add_right (mul_lt_mul_of_neg_right hab hplot) _

/-- Where the margins take all of the height, every depth is at the same level. -/
theorem level_margins (depth : ℚ) : level 120 depth = margin := by
  rw [level, plotHeight_eq, sub_self, mul_zero, add_zero]

theorem gridlineDepths_increasing : gridlineDepths.Pairwise (· < ·) := by
  norm_num [gridlineDepths]

theorem yAt_eq (height scale value : ℚ) :
    yAt height scale value = level height (depth scale value) := by
  rw [yAt, level, depth, plotHeight_eq, ofNat_eq, margin]
  push_cast
  ring

section

variable {scale : ℚ} (hscale : 0 < scale)

include hscale

theorem depth_lt_depth {a b : ℚ} (h : a < b) : depth scale b < depth scale a :=
  sub_lt_sub_left (div_lt_div_of_pos_right h hscale) 1

theorem depth_nonneg {value : ℚ} (h : value ≤ scale) : 0 ≤ depth scale value :=
  sub_nonneg.mpr ((div_le_one hscale).mpr h)

theorem depth_le_one {value : ℚ} (h : 0 ≤ value) : depth scale value ≤ 1 :=
  sub_le_self 1 (div_nonneg h hscale.le)

end

/-! ## Down the height -/

section

variable {labels : List String} {series : List (Series ℚ)} {height : ℚ}

theorem gridlines_of :
    (of labels series height).gridlines = gridlineDepths.map (level height) := by
  have hdepths : gridlineDepths = (List.range gridlineCount).map fun i : Nat => (i : ℚ) / 4 := by
    norm_num [gridlineDepths, gridlineCount, List.range_succ]
  rw [hdepths, List.map_map]
  refine List.map_congr_left fun i _ => ?_
  rw [Function.comp_apply, level, div_mul_eq_mul_div]
  rfl

theorem y_of_mem {p : LinePoint ℚ} (h : p ∈ (of labels series height).points) :
    p.y = level height (depth (Series.scale series) p.value) := by
  obtain ⟨line, hline, hp⟩ := List.mem_flatMap.mp h
  obtain ⟨position, hposition, rfl⟩ := List.mem_mapIdx.mp hline
  obtain ⟨index, -, rfl⟩ := List.mem_map.mp hp
  exact yAt_eq height (Series.scale series) _

section

-- whichever way levels run, the gridlines run that way and the numbers the other way
variable {r : ℚ → ℚ → Prop} (hlevel : ∀ ⦃a b⦄, a < b → r (level height a) (level height b))

include hlevel

theorem pairwise_gridlines : (of labels series height).gridlines.Pairwise r := by
  rw [gridlines_of]
  exact gridlineDepths_increasing.map _ hlevel

theorem rel_of_value_lt {p q : LinePoint ℚ} (hp : p ∈ (of labels series height).points)
    (hq : q ∈ (of labels series height).points) (h : p.value < q.value) : r q.y p.y := by
  rw [y_of_mem hp, y_of_mem hq]
  exact hlevel (depth_lt_depth (Series.scale_pos series) h)

end

theorem upright_of_lt (h : 120 < height) : (of labels series height).Upright where
  gridlines := pairwise_gridlines (level_strictMono h)
  above := fun _ hp _ hq hlt => rel_of_value_lt (level_strictMono h) hp hq hlt
  between := by
    intro p hp hzero hscale
    rw [gridlines_of, y_of_mem hp]
    refine ⟨level height 0, level height 1, rfl, rfl, ?_, ?_⟩
    · exact (level_strictMono h).monotone (depth_nonneg (Series.scale_pos series) hscale)
    · exact (level_strictMono h).monotone (depth_le_one (Series.scale_pos series) hzero)

theorem inverted_of_lt (h : height < 120) : (of labels series height).Inverted where
  gridlines := pairwise_gridlines (level_strictAnti h)
  below := fun _ hp _ hq hlt => rel_of_value_lt (r := (· > ·)) (level_strictAnti h) hp hq hlt

theorem flat_of_margins (labels : List String) (series : List (Series ℚ)) :
    (of labels series 120).Flat where
  gridlines := by
    rw [gridlines_of]
    exact List.forall_mem_map.mpr fun d _ => level_margins d
  points := fun p hp => (y_of_mem hp).trans (level_margins _)

/-- What relates each gridline to those after it relates the two margins. -/
theorem rel_of_gridlines {r : ℚ → ℚ → Prop}
    (h : (of labels series height).gridlines.Pairwise r) : r margin (height - margin) := by
  rw [gridlines_of] at h
  have hends : r (level height 0) (level height 1) := List.rel_of_pairwise_cons h (by simp)
  rwa [level_zero, level_one] at hends

theorem upright_iff : (of labels series height).Upright ↔ 120 < height := by
  refine ⟨fun h => ?_, upright_of_lt⟩
  have hends : ((60 : Nat) : ℚ) < height - (60 : Nat) := rel_of_gridlines h.gridlines
  push_cast at hends
  linarith

theorem inverted_iff : (of labels series height).Inverted ↔ height < 120 := by
  refine ⟨fun h => ?_, inverted_of_lt⟩
  have hends : height - (60 : Nat) < ((60 : Nat) : ℚ) := rel_of_gridlines h.gridlines
  push_cast at hends
  linarith

theorem flat_iff : (of labels series height).Flat ↔ height = 120 := by
  constructor
  · intro h
    have hmem : level height 1 ∈ (of labels series height).gridlines := by
      rw [gridlines_of]
      exact List.mem_map_of_mem (by simp [gridlineDepths])
    have hends : height - (60 : Nat) = ((60 : Nat) : ℚ) :=
      (level_one height).symm.trans (h.gridlines _ hmem)
    push_cast at hends
    linarith
  · rintro rfl
    exact flat_of_margins labels series

/-! ## Across the width -/

theorem xAt_strictMono (count : Nat) : StrictMono (xAt count : Nat → ℚ) := by
  intro i j hij
  have hsteps : (0 : ℚ) < ((max count 2 - 1 : Nat) : ℚ) := Nat.cast_pos.mpr (by omega)
  have hwidth : (0 : ℚ) < ((drawingWidth - 2 * margin : Nat) : ℚ) := Nat.cast_pos.mpr (by decide)
  simp only [xAt, ofNat_eq]
  gcongr

theorem xAt_zero (count : Nat) : (xAt count 0 : ℚ) = margin := by
  rw [xAt, ofNat_eq, ofNat_eq, Nat.cast_zero, zero_mul, zero_div, add_zero]

theorem xAt_last {count : Nat} (h : 2 ≤ count) :
    (xAt count (count - 1) : ℚ) = drawingWidth - margin := by
  have hsteps : (ofNat (count - 1) : ℚ) ≠ 0 := Nat.cast_ne_zero.mpr (by omega)
  rw [xAt, max_eq_left h, mul_div_cancel_left₀ _ hsteps]
  norm_num [drawingWidth, margin]

theorem xs_of :
    (of labels series height).axis.map AxisLabel.x =
      (List.range labels.length).map (xAt labels.length) :=
  List.ext_getElem (by simp [of]) (by simp [of])

theorem spread_of (hlabels : labels ≠ []) : (of labels series height).Spread where
  increasing := by
    rw [xs_of]
    exact List.pairwise_lt_range.map _ fun _ _ hlt => xAt_strictMono labels.length hlt
  first := by
    rw [xs_of, List.head?_map, List.head?_range, if_neg (mt List.length_eq_zero_iff.mp hlabels),
      Option.map_some, xAt_zero]
  last := by
    intro hcount
    have hlength : 2 ≤ labels.length := List.length_mapIdx (l := labels) ▸ hcount
    rw [xs_of, List.getLast?_map, List.getLast?_range, if_neg (by omega), Option.map_some,
      xAt_last hlength]

end

end LineChart

/-! ## Drawings of any height -/

/-- A line chart is drawn at the given height if that is positive, and at 400 otherwise.  It follows
its data and is spread over its width, and it is upright exactly if the drawing is higher than the
two margins: in one as high as these it is flat, and in a lower one upside down. -/
theorem orientation_of_height {labels : List String} {series : List (Series ℚ)}
    (hlabels : labels ≠ []) (hseries : series ≠ []) (height : Option ℚ) :
    ∃ chart, Geometry.of .line labels series height = .line chart ∧
      chart.height = (height.filter (0 < ·)).getD 400 ∧
      chart.Follows labels series ∧ chart.Spread ∧
      (chart.Upright ↔ 120 < chart.height) ∧ (chart.Flat ↔ chart.height = 120) ∧
      (chart.Inverted ↔ chart.height < 120) := by
  obtain ⟨label, labels, rfl⟩ := List.exists_cons_of_ne_nil hlabels
  obtain ⟨first, rest, rfl⟩ := List.exists_cons_of_ne_nil hseries
  exact ⟨_, rfl, rfl, LineChart.follows_of hlabels _ _, LineChart.spread_of hlabels,
    LineChart.upright_iff, LineChart.flat_iff, LineChart.inverted_iff⟩

theorem orientation_of_height_sales :
    let labels := ["Jan", "Feb", "Mar"]
    let series : List (Series ℚ) := [⟨"Sales", [-2, 5, 3, 8], ""⟩, ⟨"Costs", [4], ""⟩]
    labels ≠ [] ∧ series ≠ [] ∧
      (∃ chart, Geometry.of .line labels series (some 121) = .line chart ∧
        chart.height = 121 ∧ chart.Follows labels series ∧ chart.Spread ∧ chart.Upright) ∧
      ∃ chart, Geometry.of .line labels series (some 119) = .line chart ∧
        chart.height = 119 ∧ chart.Follows labels series ∧ chart.Spread ∧ chart.Inverted := by
  intro labels series
  have hlabels : labels ≠ [] := List.cons_ne_nil _ _
  have hseries : series ≠ [] := List.cons_ne_nil _ _
  obtain ⟨high, hhigh, hheight, hfollows, hspread, hupright, -⟩ :=
    orientation_of_height hlabels hseries (some 121)
  obtain ⟨low, hlow, hheight', hfollows', hspread', -, -, hinverted⟩ :=
    orientation_of_height hlabels hseries (some 119)
  have h121 : high.height = 121 := hheight.trans (by norm_num [Option.filter])
  have h119 : low.height = 119 := hheight'.trans (by norm_num [Option.filter])
  refine ⟨hlabels, hseries, ⟨high, hhigh, h121, hfollows, hspread, hupright.mpr ?_⟩,
    low, hlow, h119, hfollows', hspread', hinverted.mpr ?_⟩
  · norm_num [h121]
  · norm_num [h119]

/-- In a drawing that is a hundred units high, a chart is upside down. -/
theorem not_upright_at_hundred :
    let series : List (Series ℚ) := [⟨"Sales", [0, 100], ""⟩]
    ∃ chart, Geometry.of .line ["Low", "High"] series (some 100) = .line chart ∧
      chart.height = 100 ∧ chart.gridlines = [60, 55, 50, 45, 40] ∧
      chart.points.map (fun p => (p.value, p.y)) = [(0, 40), (100, 60)] ∧ ¬ chart.Upright := by
  intro series
  refine ⟨_, rfl, rfl, by decide +kernel, by decide +kernel, ?_⟩
  rw [LineChart.upright_iff]
  decide +kernel

end PageBuilder.Chart
