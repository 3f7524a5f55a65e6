import PageBuilder.Form.CommaList
import PageBuilder.Proofs.Text.Pieces
import PageBuilder.Proofs.Text.Trim

/-!
# Splitting and joining comma lists

A comma ends an entry (`split_append_comma`), a blank behind it belongs to none (`split_blank`), and
a text that can be an entry is its own only entry (`split_of_isEntry`).  So a list of such texts is
what its joined text splits into (`split_join`), and `stable_of_split` says of every text and of
every stored list what splitting and joining keep.
-/

namespace PageBuilder.CommaList

open Text (Trimmed splitChars trim)

/-- A text that can be an entry: not empty, without commas, and without blanks at its ends. -/
structure IsEntry (s : String) : Prop where
  nonempty : s ≠ ""
  plain : ',' ∉ s.toList
  trimmed : Trimmed s.toList

theorem trim_eq_self_iff {s : String} : trim s = s ↔ Trimmed s.toList := by
  rw [← Text.trimChars_eq_self_iff, ← String.toList_inj, Text.toList_trim]

/-! ## Splitting -/

/-- The entries that some pieces are, blanks and empty ones aside. -/
def entries (pieces : List (List Char)) : List String :=
  ((pieces.map String.ofList).map trim).filter (!·.isEmpty)

theorem split_eq (raw : String) : split raw = entries (splitChars (· == ',') raw.toList) := rfl

theorem entries_append (front back : List (List Char)) :
    entries (front ++ back) = entries front ++ entries back := by
  simp only [entries, List.map_append, List.filter_append]

/-- A comma ends an entry. -/
theorem split_append_comma (front back : String) :
    split (front ++ "," ++ back) = split front ++ split back := by
  have hchars : (front ++ "," ++ back).toList = front.toList ++ ',' :: back.toList := by simp
  rw [split_eq, hchars, Text.splitChars_append_cons rfl, entries_append, split_eq, split_eq]

/-- A blank in front belongs to no entry. -/
theorem split_blank (raw : String) : split (" " ++ raw) = split raw := by
  have hchars : (" " ++ raw).toList = ' ' :: raw.toList := by simp
  obtain ⟨piece, rest, hpieces⟩ := Text.exists_splitChars_eq_cons (· == ',') raw.toList
  have htrim : trim (String.ofList (' ' :: piece)) = trim (String.ofList piece) := by
    rw [trim, trim, String.toList_ofList, String.toList_ofList, Text.trimChars_cons (by decide)]
  rw [split_eq, split_eq, hchars, Text.splitChars_cons_of_neg (by decide) hpieces, hpieces]
  simp only [entries, List.map_cons, htrim]

theorem isEntry_of_mem_split {raw s : String} (h : s ∈ split raw) : IsEntry s := by
  obtain ⟨htrimmed, hne⟩ := List.mem_filter.mp h
  obtain ⟨t, ht, rfl⟩ := List.mem_map.mp htrimmed
  obtain ⟨piece, hpiece, rfl⟩ := List.mem_map.mp ht
  refine ⟨by simpa using hne, fun hcomma => ?_, trim_eq_self_iff.mp (Text.trim_trim _)⟩
  rw [Text.toList_trim, String.toList_ofList] at hcomma
  have hcut := Text.cut_eq_false_of_mem hpiece ',' (Text.mem_of_mem_trimChars hcomma)
  cases hcut

theorem split_of_isEntry {s : String} (h : IsEntry s) : split s = [s] := by
  have hplain : ∀ c ∈ s.toList, (c == ',') = false := fun c hc =>
    beq_eq_false_iff_ne.mpr fun he => h.plain (he ▸ hc)
  have hnonempty : s.isEmpty = false := by simpa using h.nonempty
  rw [split_eq, Text.splitChars_of_forall hplain]
  simp [entries, trim_eq_self_iff.mpr h.trimmed, hnonempty]

/-! ## Joining -/

theorem join_cons (s t : String) (rest : List String) :
    join ((s :: t :: rest).map .str) = s ++ "," ++ (" " ++ join ((t :: rest).map .str)) := by
  have hmark : ", " = "," ++ " " := rfl
  calc join ((s :: t :: rest).map .str)
      = s ++ ", " ++ join ((t :: rest).map .str) := String.intercalate_cons_cons
    _ = s ++ "," ++ (" " ++ join ((t :: rest).map .str)) := by
      rw [hmark, String.append_assoc, String.append_assoc, String.append_assoc]

theorem split_join {items : List String} (h : ∀ s ∈ items, IsEntry s) :
    split (join (items.map .str)) = items := by
  induction items with
  | nil => rfl
  | cons s rest ih =>
      have hs : split s = [s] := split_of_isEntry (h s List.mem_cons_self)
      have hrest := ih fun t ht => h t (List.mem_cons_of_mem s ht)
      cases rest with
      | nil => simpa [join, Json.text] using hs
      | cons t rest => rw [join_cons, split_append_comma, split_blank, hrest, hs]; rfl

theorem stored_texts (raw : String) : stored raw false = .arr ((split raw).map .str) := rfl

/-- Splitting gives entries, which are not empty, have no commas and no blanks at their ends, and
what was split is joined and split again to the same entries.  A stored list of texts is stored
again by the text that shows it if and only if each of its texts is not empty, has no comma, and is
what trimming it leaves. -/
theorem stable_of_split :
    (∀ raw, split (join ((split raw).map .str)) = split raw ∧
      ∀ s ∈ split raw, s ≠ "" ∧ ',' ∉ s.toList ∧ Trimmed s.toList) ∧
    ∀ items : List String,
      stored (join (items.map .str)) false = .arr (items.map .str) ↔
        ∀ s ∈ items, s ≠ "" ∧ ',' ∉ s.toList ∧ trim s = s := by
  refine ⟨fun raw => ⟨split_join fun s => isEntry_of_mem_split, fun s hs => ?_⟩, fun items => ?_⟩
  · obtain ⟨hne, hplain, htrimmed⟩ := isEntry_of_mem_split hs
    exact ⟨hne, hplain, htrimmed⟩
  · rw [stored_texts, Json.arr.injEq]
    constructor
    · intro h s hs
      have hsame : split (join (items.map .str)) = items :=
        List.map_injective_iff.mpr (fun _ _ => Json.str.inj) h
      obtain ⟨hne, hplain, htrimmed⟩ := isEntry_of_mem_split (hsame ▸ hs)
      exact ⟨hne, hplain, trim_eq_self_iff.mpr htrimmed⟩
    · intro h
      rw [split_join fun s hs =>
        ⟨(h s hs).1, (h s hs).2.1, trim_eq_self_iff.mp (h s hs).2.2⟩]

end PageBuilder.CommaList
