import Mathlib.Data.List.Infix
import PageBuilder.Proofs.Markup.RoundTrip

/-!
# Texts with broken end tags

In scripts and style sheets end tags are broken up.  This can be done in two texts side by side one
after the other, unless the second one begins with a slash (`guardEndTags_append`).  It leaves a
text as it is in which no tag begins (`guardEndTags_append_of_not_mem`), and it leaves no end tag in
any (`not_infix_guardEndTags`).
-/

namespace PageBuilder.Markup

/-- End tags are broken up apart in two texts, if none stands across them. -/
theorem breakEndTags_append {front back : List Char} (h : back.head? ≠ some '/') :
    breakEndTags (front ++ back) = breakEndTags front ++ breakEndTags back := by
  induction front using breakEndTags.induct with
  | case1 rest ih => simp only [List.cons_append, breakEndTags, ih]
  | case2 c rest hmark ih =>
      have hmark' : ∀ tail, c = '<' → rest ++ back = '/' :: tail → False := by
        rintro tail rfl htail
        cases rest with
        | nil => exact h (by rw [← List.nil_append back, htail, List.head?_cons])
        | cons d more => exact hmark more rfl (by rw [(List.cons.inj htail).1])
      rw [List.cons_append, breakEndTags.eq_2 c _ hmark', breakEndTags.eq_2 c rest hmark, ih,
        List.cons_append]
  | case3 => simp [breakEndTags]

theorem breakEndTags_cons_of_ne {c : Char} (hc : c ≠ '<') (rest : List Char) :
    breakEndTags (c :: rest) = c :: breakEndTags rest :=
  breakEndTags.eq_2 c rest fun _ h _ => hc h

/-- Where no tag begins, nothing is broken up. -/
theorem breakEndTags_append_of_not_mem {front : List Char} (h : '<' ∉ front) (back : List Char) :
    breakEndTags (front ++ back) = front ++ breakEndTags back := by
  induction front with
  | nil => rfl
  | cons c rest ih =>
      rw [List.mem_cons, not_or] at h
      rw [List.cons_append, breakEndTags_cons_of_ne (Ne.symm h.1), ih h.2, List.cons_append]

theorem guardEndTags_append {front back : String} (h : back.toList.head? ≠ some '/') :
    guardEndTags (front ++ back) = guardEndTags front ++ guardEndTags back := by
  rw [guardEndTags, String.toList_append, breakEndTags_append h, String.ofList_append]
  rfl

theorem guardEndTags_append_of_not_mem {front : String} (h : '<' ∉ front.toList) (back : String) :
    guardEndTags (front ++ back) = front ++ guardEndTags back := by
  rw [guardEndTags, String.toList_append, breakEndTags_append_of_not_mem h, String.ofList_append,
    String.ofList_toList]
  rfl

theorem guardEndTags_of_not_mem {s : String} (h : '<' ∉ s.toList) : guardEndTags s = s := by
  have hguard := guardEndTags_append_of_not_mem h ""
  rwa [String.append_empty, show guardEndTags "" = "" from rfl, String.append_empty] at hguard

/-- What is read up to a mark does not hold it. -/
theorem Reader.not_infix_of_upTo? {mark : List Char} (hmark : mark ≠ []) :
    ∀ {cs front back : List Char}, upTo? mark cs = some (front, back) → ¬ mark <:+: front := by
  intro cs
  induction cs with
  | nil => exact fun h => by cases h
  | cons c rest ih =>
      intro front back h
      rw [upTo?] at h
      split at h
      · cases h
        rwa [List.infix_nil]
      next hprefix =>
        obtain ⟨⟨more, back'⟩, hmore, heq⟩ := Option.map_eq_some_iff.mp h
        cases heq
        rw [List.infix_cons_iff, not_or]
        refine ⟨fun hhere => hprefix (List.isPrefixOf_iff_prefix.mpr ?_), ih hmore⟩
        rw [← append_of_upTo? hmore, ← List.cons_append]
        exact hhere.trans (List.prefix_append _ _)

theorem not_infix_guardEndTags (s : String) : ¬ "</".toList <:+: (guardEndTags s).toList := by
  have hchars : (guardEndTags s).toList = breakEndTags s.toList := String.toList_ofList
  rw [hchars]
  exact Reader.not_infix_of_upTo? (List.cons_ne_nil _ _) (Reader.upTo?_breakEndTags s.toList [])

end PageBuilder.Markup
