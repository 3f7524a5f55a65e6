import Mathlib.Algebra.BigOperators.Ring.List
import Mathlib.Algebra.Order.BigOperators.Group.List
import Mathlib.Tactic.Linarith
import Mathlib.Tactic.Ring
import PageBuilder.Proofs.Chart.Exact

/-!
# Shares of a pie

In exact numbers the slices of a pie share it without a rest.  A slice is measured by its share of
the total, so shares of a positive total add up to the whole (`sum_share`), which leaves room for
one large slice only (`length_large_le`), and for no other positive number beside a slice that is
the whole pie (`le_share_iff`).  Without a total there is nothing to divide.  With the laws of bars
this is `exact_of_layout`.
-/

namespace PageBuilder.Chart

open Scalar (ofNat zero)
open Exact

/-! ## Slices and their values -/

section

variable {α : Type} [Scalar α]

namespace PieChart

/-- The measures of a slice are shares of the total. -/
theorem shares_of_mem_slicesFrom {labels : List String} {total : α} {values : List α}
    {index : Nat} {start : α} {slice : Slice α}
    (h : slice ∈ slicesFrom labels total index start values) :
    slice.percentage = share total (ofNat 100) slice.value ∧
      slice.sweep = share total (ofNat 360) slice.value := by
  induction values generalizing index start with
  | nil => cases h
  | cons value rest ih =>
      rcases List.mem_cons.mp h with rfl | hrest
      · exact ⟨rfl, rfl⟩
      · exact ih hrest

/-- A measure of slices that their values tell is listed in the order of the values. -/
theorem map_slicesFrom {β : Type} {measure : Slice α → β} {amount : α → β} {labels : List String}
    {total : α} {values : List α} {index : Nat} {start : α}
    (h : ∀ slice ∈ slicesFrom labels total index start values,
      measure slice = amount slice.value) :
    (slicesFrom labels total index start values).map measure = values.map amount := by
  have hmeasure := List.map_congr_left (g := amount ∘ Slice.value) h
  rw [hmeasure, ← List.map_map, map_value_slicesFrom]

end PieChart

open PieChart in
/-- The outline of a slice is that of a whole pie only if the slice is the whole pie: any other
outline has a line in the place of an arc, or fewer steps. -/
theorem Slice.outlineBy_eq_iff (place : Nat → α → α × α) (s : Slice α) (hole : Nat) :
    s.outlineBy place hole = wholeOutline place hole s.start ↔ s.isWhole = true := by
  by_cases hwhole : s.isWhole = true
  · rw [outlineBy, if_pos hwhole]
    exact iff_of_true rfl hwhole
  · refine iff_of_false (fun heq => ?_) hwhole
    rw [outlineBy, if_neg hwhole] at heq
    by_cases hhole : hole = 0
    · rw [if_pos hhole] at heq
      have hsecond := congrArg (·[1]?) heq
      have hline : some (Stroke.lineTo _ _) = some (Stroke.arcTo _ _ _ _ _) := hsecond
      cases hline
    · rw [if_neg hhole] at heq
      have hlength := congrArg List.length heq
      rw [wholeOutline, if_neg hhole] at hlength
      cases hlength

end

/-! ## Shares -/

namespace PieChart

theorem drawn_eq (x : ℚ) : drawn x = max 0 x := larger_eq 0 x

theorem share_of_pos {total : ℚ} (h : 0 < total) (whole value : ℚ) :
    share total whole value = value / total * whole := by
  rw [share, below_eq, zero_eq, if_pos (decide_eq_true h)]

theorem share_of_zero (whole value : ℚ) : share 0 whole value = 0 := by
  rw [share, below_eq, zero_eq, if_neg (by simp)]

theorem share_nonneg {total whole value : ℚ} (hwhole : 0 ≤ whole) (hvalue : 0 ≤ value) :
    0 ≤ share total whole value := by
  rw [share, below_eq, zero_eq]
  split
  · rename_i h
    have htotal : 0 < total := of_decide_eq_true h
    exact mul_nonneg (div_nonneg hvalue htotal.le) hwhole
  · exact le_rfl

/-- The shares of a positive total add up to the whole. -/
theorem sum_share {values : List ℚ} (h : 0 < values.sum) (whole : ℚ) :
    (values.map (share values.sum whole)).sum = whole := by
  have hshare : share values.sum whole = fun value => value * (whole / values.sum) :=
    funext fun value => by rw [share_of_pos h, div_mul_eq_mul_div, mul_div_assoc]
  rw [hshare, List.sum_map_mul_right, List.map_id', mul_div_cancel₀ whole h.ne']

/-- The last slice stops where all sweeps together lead. -/
theorem getLast?_slicesFrom (labels : List String) (total : ℚ) {values : List ℚ}
    (h : values ≠ []) (index : Nat) (start : ℚ) :
    (slicesFrom labels total index start values).getLast?.map Slice.stop =
      some (start + (values.map (share total (ofNat 360))).sum) := by
  induction values generalizing index start with
  | nil => exact absurd rfl h
  | cons value rest ih =>
      cases rest with
      | nil => simp [slicesFrom, Slice.stop]
      | cons next rest =>
          have hrest := ih (List.cons_ne_nil next rest) (index + 1)
            (start + share total (ofNat 360) value)
          rw [List.map_cons, List.sum_cons, ← add_assoc, ← hrest]
          rfl

/-- Only one part of a whole is larger than half of it. -/
theorem length_large_le {xs : List ℚ} (hxs : ∀ x ∈ xs, 0 ≤ x) (hsum : xs.sum = 360) :
    (xs.filter (180 < ·)).length ≤ 1 := by
  have hlarge : ∀ x ∈ xs.filter (180 < ·), 180 < x := fun x hx =>
    of_decide_eq_true (List.mem_filter.mp hx).2
  have hle : (xs.filter (180 < ·)).sum ≤ 360 := hsum ▸ List.filter_sublist.sum_le_sum hxs
  cases hfilter : xs.filter (180 < ·) with
  | nil => exact Nat.zero_le 1
  | cons a others =>
      cases others with
      | nil => exact le_rfl
      | cons b rest =>
          -- two large parts alone are more than the whole
          rw [hfilter] at hlarge hle
          have ha := hlarge a (by simp)
          have hb := hlarge b (by simp)
          have hrest : 0 ≤ rest.sum := List.sum_nonneg fun x hx => by
            have hx180 := hlarge x (by simp [hx])
            linarith
          simp only [List.sum_cons] at hle
          linarith

/-- A part is the whole exactly if it is positive and no other part is. -/
theorem le_share_iff {front back : List ℚ} {value : ℚ} (hothers : ∀ x ∈ front ++ back, 0 ≤ x)
    (htotal : 0 < (front ++ value :: back).sum) :
    360 ≤ share (front ++ value :: back).sum 360 value ↔
      0 < value ∧ ∀ x ∈ front ++ back, ¬ 0 < x := by
  have hsum : (front ++ value :: back).sum = (front ++ back).sum + value := by
    simp only [List.sum_append, List.sum_cons]
    ring
  have hrest : 0 ≤ (front ++ back).sum := List.sum_nonneg hothers
  -- a share of the whole leaves nothing to the others
  have hwhole : 360 ≤ share (front ++ value :: back).sum 360 value ↔ (front ++ back).sum ≤ 0 := by
    rw [share_of_pos htotal, div_mul_eq_mul_div, le_div_iff₀ htotal, hsum]
    constructor <;> intro h <;> linarith
  rw [hwhole]
  constructor
  · intro hzero
    refine ⟨by linarith, fun x hx hpos => ?_⟩
    have hle : x ≤ (front ++ back).sum := List.single_le_sum hothers x hx
    linarith
  · rintro ⟨-, hnone⟩
    have hzero : ∀ x ∈ front ++ back, x = 0 := fun x hx =>
      le_antisymm (not_lt.mp (hnone x hx)) (hothers x hx)
    exact (List.sum_eq_zero hzero).le

/-! ## Pies -/

section

variable (labels : List String) (s : Series ℚ) (doughnut : Bool)

theorem nonneg_of_mem : ∀ x ∈ s.values.map (max 0), 0 ≤ x := by
  intro x hx
  obtain ⟨value, -, rfl⟩ := List.mem_map.mp hx
  exact le_max_left 0 value

theorem map_drawn : s.values.map drawn = s.values.map (max 0) := by
  rw [funext drawn_eq]

theorem total_of : (of labels s doughnut).total = (s.values.map (max 0)).sum := by
  rw [of, sum_eq, map_drawn]

theorem slices_of :
    (of labels s doughnut).slices =
      slicesFrom labels (of labels s doughnut).total 0 (zero - ofNat 90)
        (s.values.map (max 0)) := by
  rw [← map_drawn]
  rfl

theorem map_value_of : (of labels s doughnut).slices.map Slice.value = s.values.map (max 0) := by
  rw [slices_of, map_value_slicesFrom]

end

/-- The slices of a pie share all of it. -/
structure Full (chart : PieChart ℚ) : Prop where
  percentages : (chart.slices.map Slice.percentage).sum = 100
  sweeps : (chart.slices.map Slice.sweep).sum = 360
  last : chart.slices.getLast?.map Slice.stop = some 270
  large : (chart.slices.filter Slice.isLarge).length ≤ 1
  /-- Full circles are drawn for a slice beside which no other is positive, wherever the points of
  a circle are. -/
  whole : ∀ front slice back, chart.slices = front ++ slice :: back →
    ∀ place : Nat → ℚ → ℚ × ℚ,
      slice.outlineBy place (holeRadius chart.doughnut) =
          wholeOutline place (holeRadius chart.doughnut) slice.start ↔
        0 < slice.value ∧ ∀ other ∈ front ++ back, ¬ 0 < other.value

section

variable {labels : List String} {s : Series ℚ} {doughnut : Bool}

theorem sweep_nonneg {slice : Slice ℚ} (h : slice ∈ (of labels s doughnut).slices) :
    0 ≤ slice.sweep := by
  have hvalue : 0 ≤ slice.value := nonneg_of_mem s _ <| by
    rw [← map_value_of labels s doughnut]
    exact List.mem_map_of_mem h
  rw [slices_of] at h
  rw [(shares_of_mem_slicesFrom h).2]
  exact share_nonneg (by norm_num) hvalue

theorem isWhole_iff (htotal : 0 < (of labels s doughnut).total) {front back : List (Slice ℚ)}
    {slice : Slice ℚ} (hslices : (of labels s doughnut).slices = front ++ slice :: back) :
    slice.isWhole = true ↔ 0 < slice.value ∧ ∀ other ∈ front ++ back, ¬ 0 < other.value := by
  have hvalues := map_value_of labels s doughnut
  have hmem : slice ∈ (of labels s doughnut).slices := by
    rw [hslices]
    exact List.mem_append_right front List.mem_cons_self
  have hwhole : slice.isWhole = true ↔ 360 ≤ slice.sweep := decide_eq_true_iff
  rw [hslices, List.map_append, List.map_cons] at hvalues
  rw [slices_of] at hmem
  rw [hwhole, (shares_of_mem_slicesFrom hmem).2]
  rw [total_of, ← hvalues] at htotal ⊢
  have hothers : ∀ x ∈ front.map Slice.value ++ back.map Slice.value, 0 ≤ x := fun x hx => by
    refine nonneg_of_mem s x (hvalues ▸ ?_)
    simp only [List.mem_append, List.mem_cons] at hx ⊢
    exact hx.imp_right Or.inr
  refine (le_share_iff hothers htotal).trans (and_congr_right fun _ => ?_)
  rw [← List.map_append, List.forall_mem_map]

theorem full_of (h : 0 < (of labels s doughnut).total) : (of labels s doughnut).Full := by
  have htotal := total_of labels s doughnut
  have hpos : 0 < (s.values.map (max 0)).sum := htotal ▸ h
  have hsweeps : ((of labels s doughnut).slices.map Slice.sweep).sum = 360 := by
    rw [slices_of, map_slicesFrom fun _ h => (shares_of_mem_slicesFrom h).2, htotal,
      sum_share hpos]
    rfl
  refine ⟨?_, hsweeps, ?_, ?_, fun front slice back hslices place => ?_⟩
  · rw [slices_of, map_slicesFrom fun _ h => (shares_of_mem_slicesFrom h).1, htotal,
      sum_share hpos]
    rfl
  · have hvalues : s.values.map (max 0) ≠ [] := fun hnil => by
      rw [hnil] at hpos
      exact lt_irrefl 0 hpos
    rw [slices_of, getLast?_slicesFrom _ _ hvalues, htotal, sum_share hpos]
    norm_num
  · have hlarge := length_large_le
      (List.forall_mem_map.mpr fun slice hslice => sweep_nonneg hslice) hsweeps
    rw [List.filter_map, List.length_map] at hlarge
    exact hlarge
  · rw [Slice.outlineBy_eq_iff, isWhole_iff h hslices]

/-- Without a total, no slice has a share. -/
theorem empty_of (h : (of labels s doughnut).total = 0) :
    ∀ slice ∈ (of labels s doughnut).slices, slice.percentage = 0 ∧ slice.sweep = 0 := by
  intro slice hslice
  rw [slices_of, h] at hslice
  obtain ⟨hpercentage, hsweep⟩ := shares_of_mem_slicesFrom hslice
  rw [hpercentage, hsweep, share_of_zero, share_of_zero]
  exact ⟨rfl, rfl⟩

/-- Without a total, it does not matter how numbers are divided. -/
theorem slicesFrom_dividing (divide : ℚ → ℚ → ℚ) (labels : List String) {total : ℚ}
    (h : total = 0) (values : List ℚ) (index : Nat) (start : ℚ) :
    @slicesFrom ℚ (dividing divide) labels total index start values =
      slicesFrom labels total index start values := by
  subst h
  have hshare : ∀ whole value : ℚ, @share ℚ (dividing divide) 0 whole value = 0 := fun _ _ => rfl
  induction values generalizing index start with
  | nil => rfl
  | cons value rest ih =>
      simp only [slicesFrom, Slice.stop, hshare, share_of_zero]
      exact congrArg _ (ih (index + 1) (start + 0))

theorem of_dividing (h : (of labels s doughnut).total = 0) (divide : ℚ → ℚ → ℚ) :
    @of ℚ (dividing divide) labels s doughnut = of labels s doughnut := by
  have hslices := slicesFrom_dividing divide labels h (s.values.map drawn) 0 (zero - ofNat 90)
  exact congrArg (PieChart.mk doughnut _) hslices

end

/-- The laws of shares: a pie has a slice for every number, with zero for a negative one, and is
all shared if it has a total, and not at all if it has none. -/
structure Shared (s : Series ℚ) (chart : PieChart ℚ) : Prop where
  values : chart.slices.map Slice.value = s.values.map (max 0)
  total : chart.total = (s.values.map (max 0)).sum
  full : 0 < chart.total → chart.Full
  empty : chart.total = 0 → ∀ slice ∈ chart.slices, slice.percentage = 0 ∧ slice.sweep = 0

theorem shared_of (labels : List String) (s : Series ℚ) (doughnut : Bool) :
    (of labels s doughnut).Shared s where
  values := map_value_of labels s doughnut
  total := total_of labels s doughnut
  full := full_of
  empty := empty_of

end PieChart

/-! ## Layouts -/

/-- The laws of exact charts: each follows its data, and bars are scaled, pies and doughnuts shared.
Without a total, a pie is the same however numbers are divided: it is laid out without a
division. -/
theorem exact_of_layout {labels : List String} {series : List (Series ℚ)} (hlabels : labels ≠ [])
    (hseries : series ≠ []) (height : Option ℚ) :
    (∃ chart, Geometry.of .bar labels series height = .bar chart ∧
      chart.Follows labels series ∧ chart.Scaled series) ∧
      ∀ style, style = .pie ∨ style = .doughnut →
        ∃ chart, Geometry.of style labels series height = .pie chart ∧
          chart.Follows labels (series.head hseries) ∧ chart.Shared (series.head hseries) ∧
          (chart.total = 0 → ∀ divide,
            @Geometry.of ℚ (dividing divide) style labels series height = .pie chart) := by
  obtain ⟨label, labels, rfl⟩ := List.exists_cons_of_ne_nil hlabels
  obtain ⟨first, rest, rfl⟩ := List.exists_cons_of_ne_nil hseries
  refine ⟨⟨_, rfl, BarChart.follows_of _ _, BarChart.scaled_of _ _⟩, ?_⟩
  rintro style (rfl | rfl)
  · exact ⟨_, rfl, PieChart.follows_of _ _ _, PieChart.shared_of _ _ _,
      fun h divide => congrArg Geometry.pie (PieChart.of_dividing h divide)⟩
  · exact ⟨_, rfl, PieChart.follows_of _ _ _, PieChart.shared_of _ _ _,
      fun h divide => congrArg Geometry.pie (PieChart.of_dividing h divide)⟩

theorem exact_of_layout_votes :
    let labels := ["Yes", "No"]
    let series : List (Series ℚ) := [⟨"Votes", [6, -2, 2], ""⟩, ⟨"Seats", [9, 0], ""⟩]
    labels ≠ [] ∧ series ≠ [] ∧
      (∃ chart, Geometry.of .bar labels series none = .bar chart ∧
        chart.Follows labels series ∧ chart.Scaled series) ∧
      ∃ chart, Geometry.of .doughnut labels series none = .pie chart ∧
        chart.Follows labels ⟨"Votes", [6, -2, 2], ""⟩ ∧ chart.total = 8 ∧ chart.Full := by
  intro labels series
  have hlabels : labels ≠ [] := List.cons_ne_nil _ _
  have hseries : series ≠ [] := List.cons_ne_nil _ _
  obtain ⟨hbars, hpies⟩ := exact_of_layout hlabels hseries none
  obtain ⟨chart, hchart, hfollows, hshared, -⟩ := hpies .doughnut (Or.inr rfl)
  have htotal : chart.total = 8 := by
    rw [hshared.total]
    norm_num [series]
  exact ⟨hlabels, hseries, hbars, chart, hchart, hfollows, htotal,
    hshared.full (by norm_num [htotal])⟩

end PageBuilder.Chart
