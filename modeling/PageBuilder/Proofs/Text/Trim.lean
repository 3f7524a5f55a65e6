import Mathlib.Data.List.DropRight
import PageBuilder.Text.Blank

/-!
# Trimming

A text is trimmed from both ends, and to trim it again takes nothing more away (`trim_trim`): what
is left begins and ends with a character that is not blank, if there is any.
-/

namespace PageBuilder.Text

theorem trimEndChars_eq_rdropWhile (cs : List Char) :
    trimEndChars cs = cs.rdropWhile isBlank := rfl

/-- Where the first character is not blank, none is dropped, also when the end was trimmed. -/
theorem dropWhile_trimEndChars {cs : List Char} (h : cs.dropWhile isBlank = cs) :
    (trimEndChars cs).dropWhile isBlank = trimEndChars cs := by
  rw [trimEndChars_eq_rdropWhile]
  obtain ⟨back, hback⟩ := List.rdropWhile_prefix isBlank cs
  cases hfront : cs.rdropWhile isBlank with
  | nil => rfl
  | cons c rest =>
      rw [hfront, List.cons_append] at hback
      have hc : isBlank c = false := by
        rw [← hback, List.dropWhile_eq_self_iff] at h
        simpa using h (by simp)
      rw [List.dropWhile_cons_of_neg (by simp [hc])]

theorem trimChars_trimChars (cs : List Char) : trimChars (trimChars cs) = trimChars cs := by
  have hfront : (cs.dropWhile isBlank).dropWhile isBlank = cs.dropWhile isBlank :=
    List.dropWhile_idempotent isBlank cs
  have hkept : (trimChars cs).dropWhile isBlank = trimChars cs := dropWhile_trimEndChars hfront
  calc trimChars (trimChars cs) = trimEndChars ((trimChars cs).dropWhile isBlank) := rfl
    _ = trimEndChars (trimChars cs) := by rw [hkept]
    _ = trimChars cs := List.rdropWhile_idempotent isBlank (cs.dropWhile isBlank)

@[simp] theorem toList_trim (s : String) : (trim s).toList = trimChars s.toList :=
  String.toList_ofList

@[simp] theorem trim_trim (s : String) : trim (trim s) = trim s := by
  rw [trim, toList_trim, trimChars_trimChars, trim]

/-- Only blanks are trimmed to nothing. -/
theorem isBlank_of_trim_isEmpty {s : String} (h : (trim s).isEmpty = true) :
    ∀ c ∈ s.toList, isBlank c = true := by
  have hnil : trimChars s.toList = [] := by
    rw [← toList_trim, String.isEmpty_iff.mp h]
    rfl
  rw [trimChars, trimEndChars_eq_rdropWhile, List.rdropWhile_eq_nil_iff] at hnil
  have hfront : s.toList.dropWhile isBlank = [] := by
    by_contra hne
    have hhead := List.head_dropWhile_not isBlank hne
    rw [hnil _ (List.head_mem hne)] at hhead
    cases hhead
  exact List.dropWhile_eq_nil_iff.mp hfront

/-- Only blanks are trimmed off. -/
theorem mem_trimChars {c : Char} {cs : List Char} (h : c ∈ cs) (hc : isBlank c = false) :
    c ∈ trimChars cs := by
  have hdrop : ∀ {xs : List Char}, c ∈ xs → c ∈ xs.dropWhile isBlank := by
    intro xs hmem
    rw [← List.takeWhile_append_dropWhile (p := isBlank) (l := xs)] at hmem
    rcases List.mem_append.mp hmem with hfront | hback
    · rw [List.mem_takeWhile_imp hfront] at hc
      cases hc
    · exact hback
  rw [trimChars, trimEndChars, List.mem_reverse]
  exact hdrop (List.mem_reverse.mpr (hdrop h))

theorem mem_of_mem_trimChars {c : Char} {cs : List Char} (h : c ∈ trimChars cs) : c ∈ cs :=
  (List.dropWhile_suffix isBlank).mem ((List.rdropWhile_prefix isBlank _).mem h)

/-- A text is what is left of it when it is trimmed, with blanks before and after. -/
theorem exists_eq_trimChars (cs : List Char) :
    ∃ front back, cs = front ++ trimChars cs ++ back ∧ (∀ c ∈ front, isBlank c) ∧
      ∀ c ∈ back, isBlank c := by
  have hend : ∀ xs : List Char, xs = trimEndChars xs ++ (xs.reverse.takeWhile isBlank).reverse := by
    intro xs
    rw [trimEndChars, ← List.reverse_append, List.takeWhile_append_dropWhile, List.reverse_reverse]
  refine ⟨cs.takeWhile isBlank, ((cs.dropWhile isBlank).reverse.takeWhile isBlank).reverse, ?_,
    fun c hc => List.mem_takeWhile_imp hc,
    fun c hc => List.mem_takeWhile_imp (List.mem_reverse.mp hc)⟩
  rw [trimChars, List.append_assoc, ← hend, List.takeWhile_append_dropWhile]

/-! ## Texts that are trimmed -/

/-- The text neither begins nor ends with a blank. -/
def Trimmed (cs : List Char) : Prop :=
  ∀ c, cs.head? = some c ∨ cs.getLast? = some c → isBlank c = false

theorem dropWhile_eq_self_iff_head? {cs : List Char} :
    cs.dropWhile isBlank = cs ↔ ∀ c, cs.head? = some c → isBlank c = false := by
  cases cs with
  | nil => simp
  | cons c rest => simp [List.dropWhile_eq_self_iff]

theorem trimEndChars_eq_self_iff_getLast? {cs : List Char} :
    trimEndChars cs = cs ↔ ∀ c, cs.getLast? = some c → isBlank c = false := by
  rw [trimEndChars, List.reverse_eq_iff, dropWhile_eq_self_iff_head?, List.head?_reverse]

/-- Trimming leaves exactly those texts as they are that neither begin nor end with a blank. -/
theorem trimChars_eq_self_iff {cs : List Char} : trimChars cs = cs ↔ Trimmed cs := by
  constructor
  · intro h
    have hsuffix : cs.dropWhile isBlank <:+ cs := List.dropWhile_suffix isBlank
    have hprefix : trimChars cs <+: cs.dropWhile isBlank := List.rdropWhile_prefix isBlank _
    have hlength : cs.length ≤ (cs.dropWhile isBlank).length := by
      rw [h] at hprefix
      exact hprefix.length_le
    have hfront : cs.dropWhile isBlank = cs := hsuffix.eq_of_length_le hlength
    have hback : trimEndChars cs = cs := by rwa [trimChars, hfront] at h
    rintro c (hc | hc)
    · exact dropWhile_eq_self_iff_head?.mp hfront c hc
    · exact trimEndChars_eq_self_iff_getLast?.mp hback c hc
  · intro h
    have hfront : cs.dropWhile isBlank = cs :=
      dropWhile_eq_self_iff_head?.mpr fun c hc => h c (Or.inl hc)
    rw [trimChars, hfront]
    exact trimEndChars_eq_self_iff_getLast?.mpr fun c hc => h c (Or.inr hc)

theorem trimmed_trimChars (cs : List Char) : Trimmed (trimChars cs) :=
  trimChars_eq_self_iff.mp (trimChars_trimChars cs)

/-- Blanks in front of a text are trimmed off. -/
theorem trimChars_cons {c : Char} (hc : isBlank c = true) (cs : List Char) :
    trimChars (c :: cs) = trimChars cs := by
  rw [trimChars, List.dropWhile_cons_of_pos hc, trimChars]

end PageBuilder.Text
