import PageBuilder.Text.Blank

/-!
# Pieces of a text

What lies between the marks of a text, by way of the library's `List.splitOnP`: there is at least
one piece, no piece has a mark in it, and a text with a mark in the middle has the pieces of its two
halves.
-/

namespace PageBuilder.Text

variable {cut : Char → Bool}

theorem splitChars_eq_splitOnP (cs : List Char) : splitChars cut cs = cs.splitOnP cut := by
  induction cs with
  | nil => rfl
  | cons c cs ih =>
      rw [splitChars, List.splitOnP_cons_eq_if_modifyHead, ih]
      split
      · rfl
      · cases h : cs.splitOnP cut with
        | nil => exact absurd h (List.splitOnP_ne_nil cut cs)
        | cons piece rest => rfl

theorem exists_splitChars_eq_cons (cut : Char → Bool) (cs : List Char) :
    ∃ piece rest, splitChars cut cs = piece :: rest := by
  rw [splitChars_eq_splitOnP]
  exact List.exists_cons_of_ne_nil (List.splitOnP_ne_nil cut cs)

theorem splitChars_append_cons {c : Char} (hc : cut c = true) (front back : List Char) :
    splitChars cut (front ++ c :: back) = splitChars cut front ++ splitChars cut back := by
  simp only [splitChars_eq_splitOnP, List.splitOnP_append_cons front back hc]

theorem splitChars_of_forall {cs : List Char} (h : ∀ c ∈ cs, cut c = false) :
    splitChars cut cs = [cs] := by
  rw [splitChars_eq_splitOnP, List.splitOnP_eq_singleton h]

theorem splitChars_cons_of_neg {c : Char} (hc : cut c = false) {cs piece : List Char}
    {rest : List (List Char)} (h : splitChars cut cs = piece :: rest) :
    splitChars cut (c :: cs) = (c :: piece) :: rest := by
  rw [splitChars, if_neg (by simp [hc]), h]

theorem cut_eq_false_of_mem {cs : List Char} : ∀ {piece : List Char},
    piece ∈ splitChars cut cs → ∀ c ∈ piece, cut c = false := by
  induction cs with
  | nil =>
      intro piece hpiece c hc
      rw [splitChars, List.mem_singleton] at hpiece
      subst hpiece
      cases hc
  | cons first rest ih =>
      intro piece hpiece c hc
      by_cases hfirst : cut first = true
      · rw [splitChars, if_pos hfirst] at hpiece
        rcases List.mem_cons.mp hpiece with rfl | hlater
        · cases hc
        · exact ih hlater c hc
      · rw [Bool.not_eq_true] at hfirst
        obtain ⟨head, pieces, hpieces⟩ := exists_splitChars_eq_cons cut rest
        rw [splitChars_cons_of_neg hfirst hpieces] at hpiece
        rw [hpieces] at ih
        rcases List.mem_cons.mp hpiece with rfl | hlater
        · rcases List.mem_cons.mp hc with rfl | hhead
          · exact hfirst
          · exact ih List.mem_cons_self c hhead
        · exact ih (List.mem_cons_of_mem head hlater) c hc

end PageBuilder.Text
