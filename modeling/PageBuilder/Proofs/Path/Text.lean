import PageBuilder.Proofs.Json.Tokens
import PageBuilder.Proofs.Path.Grammar

/-!
# Paths and their texts

The text of a path whose names are made of the right characters is read back as that path if its
indexes fit in 64 bits (`parse_text`), and as no other path (`eq_of_parse_text`).  The reader goes
over the text from one position to the next, so what is shown is that each step of the path takes
it from behind one step to behind the next (`scan_steps`).  Every path that was read has such names
and indexes (`Spelled.named`, `Spelled.index_le`), so its own text is read as the path again
(`text_reads_back`).
-/

namespace PageBuilder.FieldPath

/-- Whether every name on the path can be a field name. -/
structure Named (p : FieldPath) : Prop where
  head : IsName p.head
  steps : ∀ name, Segment.key name ∈ p.steps → IsName name

/-- Whether a step can be written: an index must fit in 64 bits. -/
def isWritten : Segment → Bool
  | .key _ => true
  | .index n => n ≤ maxWord

/-! ## Characters -/

/-- The characters of some steps. -/
def stepChars (steps : List Segment) : List Char := steps.flatMap fun s => (stepText s).toList

theorem toList_text (p : FieldPath) : p.text.toList = p.head.toList ++ stepChars p.steps := by
  simp [text, stepChars, String.toList_append, String.toList_join, List.flatMap_map]

theorem text_item (list : String) (n : Nat) : text ⟨list, [.index n]⟩ = item list n := by
  simp [text, item, stepText, String.append_assoc]

theorem text_itemField (list : String) (n : Nat) (key : String) :
    text ⟨list, [.index n, .key key]⟩ = itemField list n key := by
  simp [text, itemField, item, stepText, String.append_assoc]
  rw [← String.append_assoc]
  rfl

theorem isBlank_of_isDigit {c : Char} (h : c.isDigit = true) : Text.isBlank c = false := by
  have hle : 48 ≤ c.toNat ∧ c.toNat ≤ 57 := by
    simpa [Char.isDigit, UInt32.le_iff_toNat_le] using h
  simp [Text.isBlank, Text.blankRanges]
  omega

theorem isDigit_toDigits (n : Nat) : ∀ c ∈ Nat.toDigits 10 n, c.isDigit = true :=
  fun _ hc => Json.isDigit_of_mem_toDigits hc

/-- Nothing is trimmed off a number. -/
theorem trimChars_toDigits (n : Nat) : Text.trimChars (Nat.toDigits 10 n) = Nat.toDigits 10 n := by
  have hkeep : ∀ cs : List Char, (∀ c ∈ cs, c.isDigit = true) → cs.dropWhile Text.isBlank = cs := by
    intro cs hcs
    cases cs with
    | nil => rfl
    | cons c rest =>
        rw [List.dropWhile_cons_of_neg]
        simp [isBlank_of_isDigit (hcs c List.mem_cons_self)]
  have hdigits := isDigit_toDigits n
  rw [Text.trimChars, hkeep _ hdigits, Text.trimEndChars, hkeep _ (by simpa using hdigits),
    List.reverse_reverse]

theorem word?_toDigits (n : Nat) :
    Decimal.word? (Nat.toDigits 10 n) = if n ≤ maxWord then some n else none := by
  have hnatural : Decimal.natural? (Nat.toDigits 10 n) = some n :=
    Decimal.natural?_eq_some_iff.mpr
      ⟨Nat.toDigits_ne_nil, isDigit_toDigits n, Json.ofDigits_toDigits n⟩
  rw [Decimal.word?, hnatural]
  · by_cases h : n ≤ maxWord
    · simp [h]
    · simp [h, Nat.lt_of_not_le h]
  · -- A number does not start with a plus.
    intro r heq
    exact absurd (isDigit_toDigits n '+' (heq ▸ List.mem_cons_self)) (by decide)

/-- A number between brackets is an index if it fits in 64 bits. -/
theorem indexOf?_toDigits (n : Nat) :
    indexOf? (Nat.toDigits 10 n).reverse = if n ≤ maxWord then some n else none := by
  rw [indexOf?, List.reverse_reverse, trimChars_toDigits, word?_toDigits]

/-! ## Scanning -/

theorem head_stepChars (steps : List Segment) :
    ∀ c ∈ (stepChars steps).head?, c = '.' ∨ c = '[' := by
  cases steps with
  | nil => simp [stepChars]
  | cons s rest => cases s <;> simp [stepChars, stepText]

/-- Steps are read as themselves, unless one of them is an index that does not fit. -/
theorem scan_steps {steps : List Segment} (h : ∀ name, .key name ∈ steps → IsName name) :
    ∀ done, scan .afterIndex done (stepChars steps) =
      if steps.all isWritten then .ok (done.reverse ++ steps) else .error .badIndex := by
  induction steps with
  | nil => simp [stepChars, scan]
  | cons s rest ih =>
      have ih := ih fun name hname => h name (List.mem_cons_of_mem s hname)
      intro done
      cases s with
      | key name =>
          have hname : IsName name := h name List.mem_cons_self
          have hchars : stepChars (.key name :: rest) = '.' :: (name.toList ++ stepChars rest) := by
            simp [stepChars, stepText]
          rw [hchars, scan, if_neg (by decide), if_pos rfl, scan_fresh (Or.inr rfl) hname,
            scan_name_end (head_stepChars rest), ih]
          simp [nameOf, isWritten]
      | index n =>
          have hchars : stepChars (.index n :: rest) =
              '[' :: (Nat.toDigits 10 n ++ ']' :: stepChars rest) := by
            simp [stepChars, stepText]
          have hopen : ']' ∉ Nat.toDigits 10 n := fun hmem =>
            absurd (isDigit_toDigits n _ hmem) (by decide)
          rw [hchars, scan, if_pos rfl, scan_bracket hopen, List.append_nil, indexOf?_toDigits]
          by_cases hn : n ≤ maxWord
          · simp [hn, ih, isWritten]
          · simp [hn, isWritten]

/-! ## Reading a path that was written -/

theorem scan_text {p : FieldPath} (h : p.Named) :
    scan .start [] p.text.toList =
      if p.steps.all isWritten then .ok p.segments else .error .badIndex := by
  rw [toList_text, scan_fresh (Or.inl rfl) h.head, scan_name_end (head_stepChars p.steps),
    scan_steps h.steps]
  simp [nameOf, segments]

/-- A path with good names and indexes that fit is read back from its text. -/
theorem parse_text {p : FieldPath} (h : p.Named) (hindex : ∀ n, .index n ∈ p.steps → n ≤ maxWord) :
    parse p.text = .ok p := by
  have hwritten : p.steps.all isWritten = true := by
    refine List.all_eq_true.mpr fun s hs => ?_
    cases s with
    | key name => rfl
    | index n => exact decide_eq_true (hindex n hs)
  rw [parse, scan_text h, if_pos hwritten]
  rfl

/-- The text of a path with good names is read as no other path. -/
theorem eq_of_parse_text {p q : FieldPath} (h : p.Named) (hq : parse p.text = .ok q) : q = p := by
  rw [parse, scan_text h] at hq
  split at hq
  next r hr =>
    split at hr
    · cases hq
      cases hr
      rfl
    · cases hr
  next => cases hq

/-! ## Reading a path again -/

theorem Spells.isName {lax : Bool} {cs : List Char} {steps : List Segment} (h : Spells lax cs steps) :
    ∀ name, .key name ∈ steps → IsName name := by
  induction h with
  | nil => simp
  | key hname _ ih =>
      intro other hother
      rcases List.mem_cons.mp hother with he | hrest
      · cases he
        exact hname
      · exact ih other hrest
  | index _ _ ih => exact fun name hname => ih name (by simpa using hname)
  | point _ _ ih => exact ih

theorem Spells.index_le {lax : Bool} {cs : List Char} {steps : List Segment}
    (h : Spells lax cs steps) : ∀ n, .index n ∈ steps → n ≤ maxWord := by
  induction h with
  | nil => simp
  | key _ _ ih => exact fun n hn => ih n (by simpa using hn)
  | index hinner _ ih =>
      intro m hm
      rcases List.mem_cons.mp hm with he | hrest
      · cases he
        obtain ⟨_, _, _, _, _, _, hfits⟩ := hinner
        exact hfits
      · exact ih m hrest
  | point _ _ ih => exact ih

/-- The names on a path that was read are field names. -/
theorem Spelled.named {lax : Bool} {s : String} {p : FieldPath} (h : Spelled lax s p) : p.Named := by
  obtain ⟨hname, _, _, hsteps⟩ := h
  exact ⟨hname, hsteps.isName⟩

theorem Spelled.index_le {lax : Bool} {s : String} {p : FieldPath} (h : Spelled lax s p) :
    ∀ n, .index n ∈ p.steps → n ≤ maxWord := by
  obtain ⟨_, _, _, hsteps⟩ := h
  exact hsteps.index_le

/-- Every path that is read starts with a field name, and so are all its names; its indexes fit in
64 bits.  The text of every such path is read as the path.  So are the texts of the path to an item
of a list and to a field of an item. -/
theorem text_reads_back :
    (∀ s p, parse s = .ok p → p.Named ∧ ∀ n, .index n ∈ p.steps → n ≤ maxWord) ∧
    (∀ p : FieldPath, p.Named → (∀ n, .index n ∈ p.steps → n ≤ maxWord) → parse p.text = .ok p) ∧
    (∀ list key n, IsName list → IsName key → n ≤ maxWord →
      parse (itemField list n key) = .ok ⟨list, [.index n, .key key]⟩ ∧
      parse (item list n) = .ok ⟨list, [.index n]⟩) := by
  refine ⟨fun s p h => ?_, fun p => parse_text, fun list key n hlist hkey hn => ?_⟩
  · have hspelled := parse_eq_ok_iff.mp h
    exact ⟨hspelled.named, hspelled.index_le⟩
  · rw [← text_itemField, ← text_item]
    constructor
    · exact parse_text ⟨hlist, by simpa using hkey⟩ (by simpa using hn)
    · exact parse_text ⟨hlist, by simp⟩ (by simpa using hn)

/-- A path that was written with blanks and a plus is read from its own text again. -/
theorem text_reads_back_plans :
    parse "plans[ +2 ].features[18446744073709551615]" =
      .ok ⟨"plans", [.index 2, .key "features", .index maxWord]⟩ ∧
    parse (text ⟨"plans", [.index 2, .key "features", .index maxWord]⟩) =
      .ok ⟨"plans", [.index 2, .key "features", .index maxWord]⟩ ∧
    parse (itemField "plans" 2 "price") = .ok ⟨"plans", [.index 2, .key "price"]⟩ := by
  have hread : parse "plans[ +2 ].features[18446744073709551615]" =
      .ok ⟨"plans", [.index 2, .key "features", .index maxWord]⟩ := by decide +kernel
  obtain ⟨hnamed, hindex⟩ := text_reads_back.1 _ _ hread
  exact ⟨hread, text_reads_back.2.1 _ hnamed hindex,
    (text_reads_back.2.2 "plans" "price" 2 (by decide) (by decide) (by decide)).1⟩

end PageBuilder.FieldPath
