import Mathlib.Data.List.DropRight
import PageBuilder.Markup.Url
import PageBuilder.Proofs.Text.Trim

/-!
# URLs that run no script

A browser reads a URL in its own way: it takes off what is not above a space at both ends, deletes
tabs and line ends, and does not tell the case of ASCII letters (`browserChars`).  A URL is
`Harmless` if a browser finds neither `javascript:` nor `vbscript:` at its start, and `data:` only
before an image that holds no script.

What `safeUrl` gives is harmless, whatever it is given (`harmless_safeUrl`).  It looks at fewer
characters than a browser: without blanks and control characters, both see the same text
(`visible_browserChars`).  What is let through once is let through again (`safeUrl_safeUrl`), and a
URL that does not look like a script is only trimmed (`safeUrl_exact`).
-/

namespace PageBuilder.Markup

/-! ## How a browser reads a URL -/

/-- Whether a browser takes a character off the ends of a URL. -/
def isUrlPadding (c : Char) : Bool := c.toNat ≤ 0x20

/-- Whether a browser deletes a character wherever it stands in a URL. -/
def isUrlBreak (c : Char) : Bool := c = '\t' || c = '\n' || c = '\r'

/-- The characters of a URL as a browser reads them. -/
def browserChars (s : String) : List Char :=
  (((s.toList.dropWhile isUrlPadding).rdropWhile isUrlPadding).filter (!isUrlBreak ·)).map
    Char.toLower

/-- Whether a character is an ASCII blank. -/
def isAsciiBlank (c : Char) : Bool :=
  c = ' ' || c = '\t' || c = '\n' || c = '\x0c' || c = '\r'

/-- Whether a character is a control character. -/
def isControl (c : Char) : Bool := c.toNat < 0x20 || (0x7F ≤ c.toNat && c.toNat ≤ 0x9F)

/-- Some characters without ASCII blanks and control characters. -/
def visible (cs : List Char) : List Char := cs.filter fun c => !isAsciiBlank c && !isControl c

/-- What may be followed: a browser finds no script in it. -/
structure Harmless (s : String) : Prop where
  not_javascript : ¬ "javascript:".toList <+: browserChars s
  not_vbscript : ¬ "vbscript:".toList <+: browserChars s
  image_of_data : "data:".toList <+: browserChars s →
    "data:image/".toList <+: visible (browserChars s) ∧
      ¬ "data:image/svg".toList <+: visible (browserChars s)

example : ¬ Harmless "\x01 JaVa\tScript:alert(1)" := fun h => h.not_javascript (by decide)

/-! ## Characters that do not count -/

theorem isDisguise_eq (c : Char) : isDisguise c = (isAsciiBlank c || isControl c) := by
  have hblank : ∀ d : Char, c = d ↔ c.toNat = d.toNat := fun d => Char.toNat_inj.symm
  rw [Bool.eq_iff_iff]
  simp only [isDisguise, isAsciiBlank, isControl, hblank, Bool.or_eq_true, Bool.and_eq_true,
    decide_eq_true_eq]
  show _ ↔ ((((c.toNat = 32 ∨ c.toNat = 9) ∨ c.toNat = 10) ∨ c.toNat = 12) ∨ c.toNat = 13) ∨ _
  omega

theorem visible_eq (cs : List Char) : visible cs = cs.filter (!isDisguise ·) := by
  simp only [visible, isDisguise_eq, Bool.not_or]

/-- Only capital letters change, and neither they nor the small ones disguise anything. -/
theorem isDisguise_toLower (c : Char) : isDisguise c.toLower = isDisguise c := by
  by_cases hcapital : c.val ≥ 'A'.val ∧ c.val ≤ 'Z'.val
  · have hlow : 65 ≤ c.toNat := hcapital.1
    have hhigh : c.toNat ≤ 90 := hcapital.2
    have hnat : c.toLower.toNat = c.toNat + 32 := by
      have hsum : (c.val + ('a'.val - 'A'.val)).toNat = c.toNat + 32 := by
        rw [UInt32.toNat_add]
        show (c.toNat + 32) % 2 ^ 32 = c.toNat + 32
        omega
      exact (congrArg Char.toNat (dif_pos hcapital : c.toLower = _)).trans hsum
    rw [Bool.eq_iff_iff]
    simp only [isDisguise, hnat, Bool.or_eq_true, Bool.and_eq_true, decide_eq_true_eq]
    omega
  · rw [show c.toLower = c from dif_neg hcapital]

theorem filter_dropWhile {p q : Char → Bool} (h : ∀ c, q c → p c = false) (cs : List Char) :
    (cs.dropWhile q).filter p = cs.filter p := by
  induction cs with
  | nil => rfl
  | cons c rest ih =>
      by_cases hc : q c
      · rw [List.dropWhile_cons_of_pos hc, ih, List.filter_cons_of_neg (by simp [h c hc])]
      · rw [List.dropWhile_cons_of_neg hc]

theorem filter_rdropWhile {p q : Char → Bool} (h : ∀ c, q c → p c = false) (cs : List Char) :
    (cs.rdropWhile q).filter p = cs.filter p := by
  rw [List.rdropWhile, List.filter_reverse, filter_dropWhile h, List.filter_reverse,
    List.reverse_reverse]

theorem not_isDisguise_of_isUrlPadding (c : Char) (h : isUrlPadding c) :
    (!isDisguise c) = false := by
  have hlow : c.toNat ≤ 0x20 := by simpa [isUrlPadding] using h
  simp [isDisguise, hlow]

theorem not_isDisguise_of_isUrlBreak (c : Char) (h : isUrlBreak c) : (!isDisguise c) = false := by
  simp only [isUrlBreak, Bool.or_eq_true, decide_eq_true_eq] at h
  obtain (rfl | rfl) | rfl := h <;> decide

/-- Blanks and control characters aside, a browser sees the characters of a URL in lower case. -/
theorem visible_browserChars (s : String) :
    visible (browserChars s) = (s.toList.filter (!isDisguise ·)).map Char.toLower := by
  have hbreak : ∀ c : Char, (!isDisguise c && !isUrlBreak c) = !isDisguise c := by
    intro c
    by_cases hc : isUrlBreak c
    · rw [not_isDisguise_of_isUrlBreak c hc, Bool.false_and]
    · simp [hc]
  have hlower : (fun c => !isDisguise c) ∘ Char.toLower = fun c => !isDisguise c := by
    funext c
    simp [isDisguise_toLower]
  rw [visible_eq, browserChars, List.filter_map, hlower, List.filter_filter]
  simp only [hbreak]
  rw [filter_rdropWhile not_isDisguise_of_isUrlPadding,
    filter_dropWhile not_isDisguise_of_isUrlPadding]

theorem visible_browserChars_trim (s : String) :
    visible (browserChars (Text.trim s)) = schemeChars s := by
  rw [visible_browserChars, Text.toList_trim, schemeChars]

/-! ## What is let through -/

/-- A scheme that a browser finds is among the characters that `safeUrl` looks at. -/
theorem schemePrefix_of_browserPrefix {mark : List Char} {s : String} (hmark : visible mark = mark)
    (h : mark <+: browserChars (Text.trim s)) : mark <+: schemeChars s := by
  have hvisible : visible mark <+: visible (browserChars (Text.trim s)) := h.filter _
  rwa [hmark, visible_browserChars_trim] at hvisible

theorem isInlineImage_iff (cs : List Char) :
    isInlineImage cs ↔
      "data:image/".toList <+: cs ∧ ¬ "data:image/svg".toList <+: cs := by
  simp only [isInlineImage, Bool.and_eq_true, List.isPrefixOf_iff_prefix, Bool.not_eq_true',
    ← Bool.not_eq_true]

/-- A scheme that can run a script is let through before an inline image only. -/
theorem isInlineImage_of_unsafeScheme {scheme : String} {s : String}
    (hscheme : scheme ∈ unsafeSchemes) (hsafe : isUnsafe (schemeChars s) = false)
    (h : scheme.toList <+: schemeChars s) : isInlineImage (schemeChars s) := by
  by_contra himage
  have hany : unsafeSchemes.any (·.toList.isPrefixOf (schemeChars s)) :=
    List.any_eq_true.mpr ⟨scheme, hscheme, List.isPrefixOf_iff_prefix.mpr h⟩
  simp [isUnsafe, himage, hany] at hsafe

/-- A scheme other than `data:` does not stand before an inline image. -/
theorem not_schemePrefix {scheme : String} {s : String} (hscheme : scheme ∈ unsafeSchemes)
    (hother : ¬ (scheme.toList <+: "data:image/".toList ∨ "data:image/".toList <+: scheme.toList))
    (hsafe : isUnsafe (schemeChars s) = false) : ¬ scheme.toList <+: schemeChars s := by
  intro h
  have himage := (isInlineImage_iff _).mp (isInlineImage_of_unsafeScheme hscheme hsafe h)
  exact hother (List.prefix_or_prefix_of_prefix h himage.1)

theorem harmless_trim {s : String} (hsafe : isUnsafe (schemeChars s) = false) :
    Harmless (Text.trim s) where
  not_javascript h :=
    not_schemePrefix (by decide) (by decide) hsafe (schemePrefix_of_browserPrefix (by decide) h)
  not_vbscript h :=
    not_schemePrefix (by decide) (by decide) hsafe (schemePrefix_of_browserPrefix (by decide) h)
  image_of_data h := by
    have hdata := schemePrefix_of_browserPrefix (by decide) h
    rw [visible_browserChars_trim]
    exact (isInlineImage_iff _).mp (isInlineImage_of_unsafeScheme (by decide) hsafe hdata)

@[simp] theorem harmless_hash : Harmless "#" where
  not_javascript := by decide
  not_vbscript := by decide
  image_of_data := by decide

@[simp] theorem harmless_empty : Harmless "" where
  not_javascript := by decide
  not_vbscript := by decide
  image_of_data := by decide

/-- Whatever text is given as a URL, a browser finds no script in what becomes of it. -/
theorem harmless_safeUrl (s : String) : Harmless (safeUrl s) := by
  rw [safeUrl]
  split
  · exact harmless_hash
  · rename_i hsafe
    exact harmless_trim (by simpa using hsafe)

/-! ## What stays as it is -/

/-- The blanks around a URL do not count. -/
theorem schemeChars_trim (s : String) : schemeChars (Text.trim s) = schemeChars s := by
  rw [schemeChars, Text.toList_trim, Text.trimChars_trimChars, schemeChars]

/-- To make a URL safe twice is to make it safe once. -/
theorem safeUrl_safeUrl (s : String) : safeUrl (safeUrl s) = safeUrl s := by
  by_cases hunsafe : isUnsafe (schemeChars s)
  · have hhash : safeUrl s = "#" := if_pos hunsafe
    rw [hhash]
    decide
  · have htrim : safeUrl s = Text.trim s := if_neg hunsafe
    rw [htrim, safeUrl, schemeChars_trim, if_neg hunsafe, Text.trim_trim]

theorem schemeChars_eq_visible (s : String) :
    schemeChars s = (visible (Text.trim s).toList).map Char.toLower := by
  rw [visible_eq, Text.toList_trim, schemeChars]

/-- A URL without one of the schemes is trimmed and nothing else. -/
theorem safeUrl_of_noScheme {s : String}
    (h : ∀ scheme ∈ unsafeSchemes,
      ¬ scheme.toList <+: (visible (Text.trim s).toList).map Char.toLower) :
    safeUrl s = Text.trim s := by
  refine if_neg fun hunsafe => ?_
  obtain ⟨_, hany⟩ := Bool.and_eq_true_iff.mp hunsafe
  obtain ⟨scheme, hscheme, hprefix⟩ := List.any_eq_true.mp hany
  rw [schemeChars_eq_visible] at hprefix
  exact h scheme hscheme (List.isPrefixOf_iff_prefix.mp hprefix)

/-- Whatever is given as a URL, a browser finds no script in what becomes of it, and to make it safe
once more changes nothing.  A URL that starts with none of the three schemes, however they are
disguised, keeps all its characters but the blanks around it. -/
theorem safeUrl_exact (s : String) :
    Harmless (safeUrl s) ∧ safeUrl (safeUrl s) = safeUrl s ∧
    ((∀ scheme ∈ ["javascript:", "vbscript:", "data:"],
        ¬ scheme.toList <+: (visible (Text.trim s).toList).map Char.toLower) →
      safeUrl s = Text.trim s ∧
      ∃ front back, s.toList = front ++ (safeUrl s).toList ++ back ∧
        (∀ c ∈ front, Text.isBlank c) ∧ (∀ c ∈ back, Text.isBlank c) ∧
        Text.Trimmed (safeUrl s).toList) := by
  refine ⟨harmless_safeUrl s, safeUrl_safeUrl s, fun h => ?_⟩
  have htrim := safeUrl_of_noScheme h
  obtain ⟨front, back, hs, hfront, hback⟩ := Text.exists_eq_trimChars s.toList
  rw [htrim, Text.toList_trim]
  exact ⟨rfl, front, back, hs, hfront, hback, Text.trimmed_trimChars s.toList⟩

/-- A URL with a control character in its scheme, and blanks at both ends that a browser would not
take off. -/
theorem safeUrl_exact_odd :
    (∀ scheme ∈ ["javascript:", "vbscript:", "data:"],
      ¬ scheme.toList <+: (visible (Text.trim "\u00a0 HT\x01TPS://a.b/c d\u3000").toList).map
        Char.toLower) ∧
    safeUrl "\u00a0 HT\x01TPS://a.b/c d\u3000" = "HT\x01TPS://a.b/c d" ∧
    Harmless "HT\x01TPS://a.b/c d" := by
  have hscheme : ∀ scheme ∈ ["javascript:", "vbscript:", "data:"],
      ¬ scheme.toList <+: (visible (Text.trim "\u00a0 HT\x01TPS://a.b/c d\u3000").toList).map
        Char.toLower := by decide +kernel
  have htrim : Text.trim "\u00a0 HT\x01TPS://a.b/c d\u3000" = "HT\x01TPS://a.b/c d" := by
    decide +kernel
  obtain ⟨hharmless, _, hkept⟩ := safeUrl_exact "\u00a0 HT\x01TPS://a.b/c d\u3000"
  have hsafe := (hkept hscheme).1.trans htrim
  exact ⟨hscheme, hsafe, hsafe ▸ hharmless⟩

end PageBuilder.Markup
