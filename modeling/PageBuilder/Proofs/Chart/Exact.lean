import Mathlib.Algebra.Order.Field.Rat
import Mathlib.Algebra.Order.Field.Basic
import PageBuilder.Proofs.Chart.Layout

/-!
# Charts in exact numbers

Charts are laid out in rational numbers here, so that the laws of their arithmetic can be stated
without rounding.  Bars are measured against a scale that no number exceeds, which makes their
heights fractions (`BarChart.scaled_of`).
-/

namespace PageBuilder.Chart

open Scalar (ofNat zero)

/-! ## Exact numbers -/

namespace Exact

/-- Exact numbers, all of them finite. -/
scoped instance exact : Scalar ℚ where
  ofNat n := n
  below x y := decide (x < y)
  atMost x y := decide (x ≤ y)
  isFinite _ := true

/-- Exact numbers with a division of their own. -/
@[reducible] def dividing (divide : ℚ → ℚ → ℚ) : Scalar ℚ := { exact with div := divide }

@[simp] theorem zero_eq : (zero : ℚ) = 0 := rfl

@[simp] theorem ofNat_eq (n : Nat) : (ofNat n : ℚ) = n := rfl

@[simp] theorem below_eq (x y : ℚ) : Scalar.below x y = decide (x < y) := rfl

@[simp] theorem atMost_eq (x y : ℚ) : Scalar.atMost x y = decide (x ≤ y) := rfl

theorem larger_eq (x y : ℚ) : Scalar.larger x y = max x y := by
  rw [Scalar.larger, below_eq, max_def_lt]
  simp only [decide_eq_true_eq]

theorem sum_eq (xs : List ℚ) : Scalar.sum xs = xs.sum := by
  rw [Scalar.sum, List.sum_eq_foldl]
  rfl

end Exact

open Exact

/-! ## Bars -/

namespace Series

variable (series : List (Series ℚ))

theorem scale_eq : scale series = (series.flatMap (·.values)).foldl max 1 := by
  have hlarger : Scalar.larger = (max : ℚ → ℚ → ℚ) := funext₂ larger_eq
  have hfinite : ∀ xs : List ℚ, xs.filter Scalar.isFinite = xs := fun xs =>
    List.filter_eq_self.mpr fun _ _ => rfl
  rw [scale, hlarger, hfinite, ofNat_eq, Nat.cast_one]

/-- The scale is the greatest of one and all numbers. -/
theorem scale_greatest :
    scale series ∈ 1 :: series.flatMap (·.values) ∧
      ∀ v ∈ 1 :: series.flatMap (·.values), v ≤ scale series := by
  rw [scale_eq]
  exact List.max?_eq_some_iff.mp List.max?_cons'

theorem one_le_scale : 1 ≤ scale series := (scale_greatest series).2 1 List.mem_cons_self

theorem scale_pos : 0 < scale series := zero_lt_one.trans_le (one_le_scale series)

theorem le_scale {s : Series ℚ} (hs : s ∈ series) {v : ℚ} (hv : v ∈ s.values) :
    v ≤ scale series :=
  (scale_greatest series).2 v (List.mem_cons_of_mem 1 (List.mem_flatMap.mpr ⟨s, hs, hv⟩))

theorem scale_mem : scale series = 1 ∨ ∃ s ∈ series, scale series ∈ s.values :=
  (List.mem_cons.mp (scale_greatest series).1).imp_right List.mem_flatMap.mp

theorem valueAt_le_scale {s : Series ℚ} (hs : s ∈ series) (index : Nat) :
    s.valueAt index ≤ scale series := by
  rw [valueAt_eq, numberAt]
  split
  · exact le_scale series hs (List.getElem_mem _)
  · exact zero_le_one.trans (one_le_scale series)

end Series

/-- The bars of a chart, group by group. -/
def BarChart.bars {α : Type} (chart : BarChart α) : List (Bar α) := chart.groups.flatMap (·.bars)

/-- The laws of heights: the scale is the largest number, and at least one, and the bars are as high
as their numbers are large against it, from zero on. -/
structure BarChart.Scaled (series : List (Series ℚ)) (chart : BarChart ℚ) : Prop where
  one_le : 1 ≤ chart.scale
  le_scale : ∀ s ∈ series, ∀ v ∈ s.values, v ≤ chart.scale
  scale_mem : chart.scale = 1 ∨ ∃ s ∈ series, chart.scale ∈ s.values
  height_mem : ∀ bar ∈ chart.bars, 0 ≤ bar.height ∧ bar.height ≤ 1
  height_eq_zero_iff : ∀ bar ∈ chart.bars, bar.height = 0 ↔ bar.value ≤ 0
  height_eq_one_iff : ∀ bar ∈ chart.bars, bar.height = 1 ↔ bar.value = chart.scale
  monotone : ∀ bar ∈ chart.bars, ∀ other ∈ chart.bars,
    bar.value ≤ other.value → bar.height ≤ other.height

theorem clamp_eq (x : ℚ) : Scalar.clamp zero (ofNat 1) x = max 0 (min x 1) := by
  rw [Scalar.clamp]
  simp only [below_eq, zero_eq, ofNat_eq, Nat.cast_one, decide_eq_true_eq]
  split
  · rename_i h
    rw [max_eq_left ((min_le_left x 1).trans h.le)]
  · rename_i h
    split
    · rename_i hone
      rw [min_eq_right hone.le, max_eq_right zero_le_one]
    · rename_i hone
      rw [min_eq_left (not_lt.mp hone), max_eq_right (not_lt.mp h)]

theorem BarChart.mem_bars_of {labels : List String} {series : List (Series ℚ)} {bar : Bar ℚ}
    (h : bar ∈ (BarChart.of labels series).bars) :
    bar.height = max 0 (min (bar.value / Series.scale series) 1) ∧
      bar.value ≤ Series.scale series := by
  obtain ⟨group, hgroup, hbar⟩ := List.mem_flatMap.mp h
  obtain ⟨index, hindex, rfl⟩ := List.mem_mapIdx.mp hgroup
  obtain ⟨position, hposition, rfl⟩ := List.mem_mapIdx.mp hbar
  exact ⟨clamp_eq _, Series.valueAt_le_scale series (List.getElem_mem hposition) index⟩

theorem BarChart.scaled_of (labels : List String) (series : List (Series ℚ)) :
    (BarChart.of labels series).Scaled series := by
  have hscale : 0 < Series.scale series := Series.scale_pos series
  refine ⟨Series.one_le_scale series, fun s hs v hv => Series.le_scale series hs hv,
    Series.scale_mem series, ?_, ?_, ?_, ?_⟩
  · intro bar hbar
    rw [(mem_bars_of hbar).1]
    exact ⟨le_max_left _ _, max_le zero_le_one (min_le_right _ _)⟩
  · intro bar hbar
    rw [(mem_bars_of hbar).1, max_eq_left_iff, min_le_iff, div_le_iff₀ hscale, zero_mul]
    exact or_iff_left (not_le.mpr zero_lt_one)
  · intro bar hbar
    obtain ⟨hheight, hle⟩ := mem_bars_of hbar
    have hone : 1 ≤ bar.height ↔ Series.scale series ≤ bar.value := by
      rw [hheight, le_max_iff, le_min_iff, one_le_div hscale]
      simp
    have hmem : bar.height ≤ 1 := hheight ▸ max_le zero_le_one (min_le_right _ _)
    exact ⟨fun h => hle.antisymm (hone.mp h.ge), fun h => hmem.antisymm (hone.mpr h.ge)⟩
  · intro bar hbar other hother hle
    rw [(mem_bars_of hbar).1, (mem_bars_of hother).1]
    gcongr

end PageBuilder.Chart
