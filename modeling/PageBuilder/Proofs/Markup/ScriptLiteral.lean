import PageBuilder.Proofs.Json.Tokens
import PageBuilder.Proofs.Markup.EndTags

/-!
# String literals in scripts

A string literal in a script is written twice over: as a literal, and then with end tags broken up
in it and around it.  In a literal a broken end tag reads as the end tag, for `\/` stands for a
slash, and nothing else of the literal is touched (`scanPieces_breakEndTags`).  So it reads back as
the text it was written from, and ends where it ended before (`scanToken_scriptLiteral`).
-/

namespace PageBuilder.Markup

open Json (scanPieces scanToken stringText hexValue? unit? scanPieces_unit scanPieces_escaped
  scanPieces_plain scanToken_stringText)

/-- No tag begins in the digits of a unit. -/
theorem not_mem_of_unit? {a b c d : Char} {n : Nat} (h : unit? a b c d = some n) :
    '<' ∉ [a, b, c, d] := by
  have hnone : hexValue? '<' = none := by decide
  intro hmem
  simp only [List.mem_cons, List.not_mem_nil, or_false] at hmem
  rcases hmem with rfl | rfl | rfl | rfl
  all_goals simp [unit?, hnone] at h

/-- Breaking up end tags changes neither what a literal spells nor where it ends. -/
theorem scanPieces_breakEndTags {done : List Json.Piece} {cs : List Char} :
    ∀ {pieces rest}, scanPieces done cs = some (pieces, rest) →
      scanPieces done (breakEndTags cs) = some (pieces, breakEndTags rest) := by
  fun_induction scanPieces done cs with
  | case1 | case4 | case6 | case7 => exact fun h => by cases h
  | case2 done tail =>
      intro pieces rest h
      cases h
      rw [breakEndTags_cons_of_ne (by decide), scanPieces]
  | case3 done a b c d tail n hunit ih =>
      intro pieces rest h
      have hdigits : breakEndTags ('\\' :: 'u' :: a :: b :: c :: d :: tail) =
          '\\' :: 'u' :: a :: b :: c :: d :: breakEndTags tail := by
        have hmem := not_mem_of_unit? hunit
        simp only [List.mem_cons, List.not_mem_nil, or_false, not_or] at hmem
        obtain ⟨ha, hb, hc, hd⟩ := hmem
        rw [breakEndTags_cons_of_ne (by decide), breakEndTags_cons_of_ne (by decide),
          breakEndTags_cons_of_ne (Ne.symm ha), breakEndTags_cons_of_ne (Ne.symm hb),
          breakEndTags_cons_of_ne (Ne.symm hc), breakEndTags_cons_of_ne (Ne.symm hd)]
      rw [hdigits, scanPieces_unit hunit]
      exact ih h
  | case5 done e tail hunit c hescaped ih =>
      intro pieces rest h
      have he : e ≠ '<' := by
        rintro rfl
        cases hescaped
      rw [breakEndTags_cons_of_ne (by decide), breakEndTags_cons_of_ne he,
        scanPieces_escaped hescaped]
      exact ih h
  | case8 done c tail hquote _ hmark hcontrol ih =>
      intro pieces rest h
      have hc : c ≠ '\\' := by
        -- A backslash that escapes nothing is the last character, and nothing ends the literal.
        rintro rfl
        cases tail with
        | nil => cases h
        | cons e more => exact hmark e more rfl rfl
      by_cases htag : ∃ more, c = '<' ∧ tail = '/' :: more
      · obtain ⟨more, rfl, rfl⟩ := htag
        have hrest := ih h
        rw [breakEndTags_cons_of_ne (by decide),
          scanPieces_plain (by decide) (by decide) (by decide)] at hrest
        rwa [breakEndTags, scanPieces_plain (by decide) (by decide) (by decide),
          scanPieces_escaped (c := '/') rfl]
      · rw [breakEndTags.eq_2 c tail fun more hlt hslash => htag ⟨more, hlt, hslash⟩,
          scanPieces_plain hquote hc hcontrol]
        exact ih h

/-- A string literal reads the same once end tags are broken up, whoever wrote it. -/
theorem scanToken_breakEndTags {cs rest : List Char} {s : Option String}
    (h : scanToken ('"' :: cs) = (.text s, rest)) :
    scanToken (breakEndTags ('"' :: cs)) = (.text s, breakEndTags rest) := by
  rw [breakEndTags_cons_of_ne (by decide)]
  rw [scanToken] at h ⊢
  cases hpieces : scanPieces [] cs with
  | none => rw [hpieces] at h; cases h
  | some found =>
      obtain ⟨pieces, tail⟩ := found
      rw [hpieces] at h
      rw [scanPieces_breakEndTags hpieces]
      obtain ⟨hs, rfl⟩ := Prod.mk.inj h
      exact Prod.ext hs rfl

/-- How a string literal stands in a script. -/
def scriptLiteral (s : String) : String := guardEndTags (stringText s)

example : scriptLiteral "</script>\"" = "\"<\\/script>\\\"\"" := by decide +kernel

theorem guardEndTags_stringText_append (s : String) {rest : String}
    (h : rest.toList.head? ≠ some '/') :
    guardEndTags (stringText s ++ rest) = scriptLiteral s ++ guardEndTags rest :=
  guardEndTags_append h

/-- A string literal in a script reads back, and ends where it should. -/
theorem scanToken_scriptLiteral (s : String) {rest : String} (h : rest.toList.head? ≠ some '/') :
    scanToken (scriptLiteral s ++ guardEndTags rest).toList =
      (.text (some s), (guardEndTags rest).toList) := by
  have hread := scanToken_stringText s rest.toList
  rw [Json.toList_stringText] at hread
  have hbroken := scanToken_breakEndTags hread
  rw [← Json.toList_stringText, ← String.toList_append] at hbroken
  rw [← guardEndTags_stringText_append s h, guardEndTags, guardEndTags, String.toList_ofList,
    String.toList_ofList, hbroken]

end PageBuilder.Markup
