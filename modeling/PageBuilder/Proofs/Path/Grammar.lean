import Mathlib.Data.List.Infix
import PageBuilder.Path.Basic
import PageBuilder.Proofs.Json.Storable
import PageBuilder.Proofs.Text.Trim

/-!
# The grammar of field paths

Which texts are field paths, and which path each of them is.  A path is a field name and steps: a
name after a point, or a number in brackets.  `Spelled false` is this grammar.  What is read is a
little more, `Spelled true`: a point may stand before a bracket, where it adds nothing.

`reads_grammar` says that exactly these texts are read, each as the path it spells, and that the
texts of the plain grammar are those among them without a point before a bracket.  That nothing
else is read goes over the text from position to position: `Reads` says what may follow each of
them (`reads_of_scan`).  That all this is read goes over the steps (`scan_of_spells`).
-/

namespace PageBuilder

/-! ## The grammar -/

/-- Whether some characters write a number of at most 64 bits: they are its decimal digits, or a
plus and its digits. -/
def Decimal.WritesWord (cs : List Char) (n : Nat) : Prop :=
  ∃ digits, (cs = digits ∨ cs = '+' :: digits) ∧ digits ≠ [] ∧
    (∀ d ∈ digits, d.isDigit = true) ∧ ofDigits digits = n ∧ n ≤ maxWord

namespace FieldPath

/-- Whether a text can be a field name. -/
def IsName (s : String) : Prop := s.toList ≠ [] ∧ ∀ c ∈ s.toList, isNameChar c = true

instance : DecidablePred IsName := fun s =>
  decidable_of_iff (s.toList ≠ [] ∧ s.toList.all isNameChar = true) (by
    rw [List.all_eq_true, IsName])

/-- Whether some characters can stand between brackets for an index: blanks aside they write it. -/
def WritesIndex (cs : List Char) (n : Nat) : Prop :=
  ']' ∉ cs ∧ Decimal.WritesWord (Text.trimChars cs) n

/-- The steps that some characters spell.  `lax` allows a point before a bracket. -/
inductive Spells (lax : Bool) : List Char → List Segment → Prop where
  | nil : Spells lax [] []
  | key {name : String} {rest : List Char} {steps : List Segment} :
      IsName name → Spells lax rest steps →
      Spells lax ('.' :: (name.toList ++ rest)) (.key name :: steps)
  | index {inner : List Char} {n : Nat} {rest : List Char} {steps : List Segment} :
      WritesIndex inner n → Spells lax rest steps →
      Spells lax ('[' :: (inner ++ ']' :: rest)) (.index n :: steps)
  | point {rest : List Char} {steps : List Segment} :
      lax = true → Spells lax ('[' :: rest) steps → Spells lax ('.' :: '[' :: rest) steps

/-- Whether a text spells a path: the name it starts with, and then the steps. -/
structure Spelled (lax : Bool) (s : String) (p : FieldPath) : Prop where
  head : IsName p.head
  steps : ∃ rest, s.toList = p.head.toList ++ rest ∧ Spells lax rest p.steps

end FieldPath

/-! ## Indexes -/

namespace Decimal

variable {cs : List Char} {n : Nat}

theorem natural?_eq_some_iff :
    natural? cs = some n ↔ cs ≠ [] ∧ (∀ d ∈ cs, d.isDigit = true) ∧ ofDigits cs = n := by
  simp [natural?, and_assoc]

/-- Reading a number of at most 64 bits, a plus before it or not. -/
theorem word?_eq_some_iff : word? cs = some n ↔ WritesWord cs n := by
  have hread : ∀ digits, ((natural? digits).filter (· ≤ maxWord)) = some n ↔
      digits ≠ [] ∧ (∀ d ∈ digits, d.isDigit = true) ∧ ofDigits digits = n ∧ n ≤ maxWord := by
    intro digits
    rw [Option.filter_eq_some_iff, natural?_eq_some_iff, decide_eq_true_iff]
    tauto
  constructor
  · intro h
    unfold word? at h
    split at h
    · exact ⟨_, Or.inr rfl, (hread _).mp h⟩
    · exact ⟨_, Or.inl rfl, (hread _).mp h⟩
  · rintro ⟨digits, rfl | rfl, h⟩
    · rw [word?, (hread _).mpr h]
      -- Digits do not start with a plus.
      intro rest hplus
      exact absurd (h.2.1 '+' (hplus ▸ List.mem_cons_self)) (by decide)
    · exact (hread _).mpr h

end Decimal

namespace FieldPath

/-- An index is read from what stands between brackets, its characters last first. -/
theorem writesIndex_iff {cs : List Char} {n : Nat} :
    WritesIndex cs n ↔ ']' ∉ cs ∧ indexOf? cs.reverse = some n := by
  rw [WritesIndex, indexOf?, List.reverse_reverse, Decimal.word?_eq_some_iff]

/-! ## What is read is spelled -/

attribute [local simp] scan

/-- What may follow a position, and the segments that it gives.  The name or index that is being
read there counts. -/
def Reads : Position → List Char → List Segment → Prop
  | .start, cs, segments => ∃ name rest steps, IsName name ∧ cs = name.toList ++ rest ∧
      Spells true rest steps ∧ segments = .key name :: steps
  | .name read, cs, segments => ∃ more rest steps, (∀ c ∈ more, isNameChar c = true) ∧
      cs = more ++ rest ∧ Spells true rest steps ∧
      segments = nameOf (more.reverse ++ read) :: steps
  | .bracket read, cs, segments => ∃ more rest n steps, ']' ∉ more ∧ cs = more ++ ']' :: rest ∧
      indexOf? (more.reverse ++ read) = some n ∧ Spells true rest steps ∧
      segments = .index n :: steps
  | .afterIndex, cs, segments => Spells true cs segments
  | .afterPoint, cs, segments => Spells true ('.' :: cs) segments

section

variable {c : Char} {read cs : List Char} {segments : List Segment}

/-- A name ends where a step begins. -/
theorem reads_of_spells (h : Spells true cs segments) :
    Reads (.name read) cs (nameOf read :: segments) :=
  ⟨[], cs, segments, List.forall_mem_nil _, rfl, h, rfl⟩

/-- A name begins with any of its characters. -/
theorem exists_name_of_reads (hc : isNameChar c = true) (h : Reads (.name [c]) cs segments) :
    Reads .start (c :: cs) segments := by
  obtain ⟨more, rest, steps, hmore, rfl, hsteps, rfl⟩ := h
  have hname : IsName (String.ofList (c :: more)) := by simpa [IsName, hc] using hmore
  exact ⟨_, rest, steps, hname, by simp, hsteps, by simp [nameOf]⟩

/-- What follows an open bracket is an index and the steps after it. -/
theorem spells_of_reads (h : Reads (.bracket []) cs segments) :
    Spells true ('[' :: cs) segments := by
  obtain ⟨more, rest, n, steps, hmore, rfl, hindex, hsteps, rfl⟩ := h
  rw [List.append_nil] at hindex
  exact .index (writesIndex_iff.mpr ⟨hmore, hindex⟩) hsteps

end

/-- What is read from a position on is what may follow it. -/
theorem reads_of_scan {position : Position} {done segments : List Segment} {cs : List Char}
    (h : scan position done cs = .ok segments) :
    ∃ rest, segments = done.reverse ++ rest ∧ Reads position cs rest := by
  induction cs generalizing position done with
  | nil =>
      cases position with
      | name read =>
          cases h
          exact ⟨[nameOf read], by simp, reads_of_spells .nil⟩
      | afterIndex =>
          cases h
          exact ⟨[], by simp, .nil⟩
      | _ => cases h
  | cons c cs ih =>
      cases position with
      | start =>
          simp only [scan] at h
          split_ifs at h with hbracket hpoint hc
          obtain ⟨rest, rfl, hrest⟩ := ih h
          exact ⟨rest, rfl, exists_name_of_reads hc hrest⟩
      | name read =>
          simp only [scan] at h
          split_ifs at h with hbracket hpoint hc
          · obtain ⟨rest, rfl, hrest⟩ := ih h
            exact ⟨nameOf read :: rest, by simp,
              hbracket ▸ reads_of_spells (spells_of_reads hrest)⟩
          · obtain ⟨rest, rfl, hrest⟩ := ih h
            exact ⟨nameOf read :: rest, by simp, hpoint ▸ reads_of_spells hrest⟩
          · obtain ⟨_, rfl, more, rest, steps, hmore, rfl, hsteps, rfl⟩ := ih h
            exact ⟨_, rfl, c :: more, rest, steps, List.forall_mem_cons.mpr ⟨hc, hmore⟩, rfl,
              hsteps, by simp⟩
      | bracket read =>
          simp only [scan] at h
          split_ifs at h with hclose
          · split at h
            next n hindex =>
              obtain ⟨rest, rfl, hrest⟩ := ih h
              exact ⟨.index n :: rest, by simp, [], cs, n, rest, List.not_mem_nil,
                by rw [hclose]; rfl, hindex, hrest, rfl⟩
            next => cases h
          · obtain ⟨_, rfl, more, rest, n, steps, hmore, rfl, hindex, hsteps, rfl⟩ := ih h
            exact ⟨_, rfl, c :: more, rest, n, steps, by simp [hmore, Ne.symm hclose], rfl,
              by simpa using hindex, hsteps, rfl⟩
      | afterIndex =>
          simp only [scan] at h
          split_ifs at h with hbracket hpoint
          · obtain ⟨rest, rfl, hrest⟩ := ih h
            exact ⟨rest, rfl, hbracket ▸ spells_of_reads hrest⟩
          · obtain ⟨rest, rfl, hrest⟩ := ih h
            exact ⟨rest, rfl, hpoint ▸ hrest⟩
      | afterPoint =>
          simp only [scan] at h
          split_ifs at h with hbracket hpoint hc
          · obtain ⟨rest, rfl, hrest⟩ := ih h
            exact ⟨rest, rfl, hbracket ▸ .point rfl (spells_of_reads hrest)⟩
          · obtain ⟨rest, rfl, hrest⟩ := ih h
            obtain ⟨name, rest, steps, hname, hcs, hsteps, rfl⟩ := exists_name_of_reads hc hrest
            exact ⟨_, rfl, hcs ▸ .key hname hsteps⟩

/-! ## What is spelled is read -/

section

variable {done : List Segment} {rest : List Char}

/-- A character of a name stands for itself wherever a name can go on or start. -/
theorem ne_of_isNameChar {c : Char} (h : isNameChar c = true) : c ≠ '[' ∧ c ≠ '.' := by
  constructor
  all_goals
    rintro rfl
    revert h
    decide

/-- A name that has begun is read to its end. -/
theorem scan_name {cs : List Char} (h : ∀ c ∈ cs, isNameChar c = true) : ∀ read : List Char,
    scan (.name read) done (cs ++ rest) = scan (.name (cs.reverse ++ read)) done rest := by
  induction cs with
  | nil => exact fun _ => rfl
  | cons c cs ih =>
      intro read
      obtain ⟨hc, hcs⟩ := List.forall_mem_cons.mp h
      obtain ⟨hbracket, hpoint⟩ := ne_of_isNameChar hc
      rw [List.cons_append, scan, if_neg hbracket, if_neg hpoint, if_pos hc, ih hcs]
      simp

/-- At the start and after a point a name is read. -/
theorem scan_fresh {position : Position} (hfresh : position = .start ∨ position = .afterPoint)
    {name : String} (h : IsName name) :
    scan position done (name.toList ++ rest) = scan (.name name.toList.reverse) done rest := by
  obtain ⟨hne, hchars⟩ := h
  obtain ⟨c, cs, he⟩ := List.exists_cons_of_ne_nil hne
  rw [he] at hchars ⊢
  obtain ⟨hc, hcs⟩ := List.forall_mem_cons.mp hchars
  obtain ⟨hbracket, hpoint⟩ := ne_of_isNameChar hc
  rcases hfresh with rfl | rfl
  all_goals
    rw [List.cons_append, scan, if_neg hbracket, if_neg hpoint, if_pos hc, scan_name hcs]
    simp

/-- What stands between brackets is read up to the closing one. -/
theorem scan_bracket {cs : List Char} (h : ']' ∉ cs) : ∀ read : List Char,
    scan (.bracket read) done (cs ++ ']' :: rest) =
      match indexOf? (cs.reverse ++ read) with
      | some n => scan .afterIndex (.index n :: done) rest
      | none => .error .badIndex := by
  induction cs with
  | nil =>
      intro read
      rw [List.nil_append, scan, if_pos rfl]
      rfl
  | cons c cs ih =>
      intro read
      obtain ⟨hc, hcs⟩ := not_or.mp (mt List.mem_cons.mpr h)
      rw [List.cons_append, scan, if_neg (Ne.symm hc), ih hcs]
      simp

end

/-- Behind a name steps are read as they are behind an index. -/
theorem scan_name_end {cs : List Char} (h : ∀ c ∈ cs.head?, c = '.' ∨ c = '[') (read : List Char)
    (done : List Segment) :
    scan (.name read) done cs = scan .afterIndex (nameOf read :: done) cs := by
  cases cs with
  | nil => rfl
  | cons c cs =>
      obtain rfl | rfl : c = '.' ∨ c = '[' := h c rfl
      · rw [scan, if_neg (by decide), if_pos rfl, scan, if_neg (by decide), if_pos rfl]
      · rw [scan, if_pos rfl, scan, if_pos rfl]

theorem Spells.head {lax : Bool} {cs : List Char} {steps : List Segment} (h : Spells lax cs steps) :
    ∀ c ∈ cs.head?, c = '.' ∨ c = '[' := by
  cases h <;> simp

/-- Steps are read as themselves. -/
theorem scan_of_spells {cs : List Char} {steps : List Segment} (h : Spells true cs steps) :
    ∀ done, scan .afterIndex done cs = .ok (done.reverse ++ steps) := by
  induction h with
  | nil => simp
  | key hname hrest ih =>
      intro done
      rw [scan, if_neg (by decide), if_pos rfl, scan_fresh (Or.inr rfl) hname,
        scan_name_end hrest.head, ih]
      simp [nameOf]
  | index hinner _ ih =>
      intro done
      obtain ⟨hopen, hindex⟩ := writesIndex_iff.mp hinner
      rw [scan, if_pos rfl, scan_bracket hopen, List.append_nil, hindex]
      simp [ih]
  | point _ _ ih =>
      -- Behind the point the bracket is opened as it would be without it.
      intro done
      rw [← ih done, scan, if_neg (by decide), if_pos rfl, scan, if_pos rfl, scan, if_pos rfl]

/-- Exactly the texts that spell a path are read, each as the path it spells. -/
theorem parse_eq_ok_iff {s : String} {p : FieldPath} : parse s = .ok p ↔ Spelled true s p := by
  constructor
  · intro h
    unfold parse at h
    split at h
    next q hq =>
      cases h
      obtain ⟨segments, hscan, hsegments⟩ := bind_eq_ok hq
      obtain ⟨_, rfl, name, rest, steps, hname, hrest, hsteps, rfl⟩ := reads_of_scan hscan
      cases hsegments
      exact ⟨hname, rest, hrest, hsteps⟩
    next => cases h
  · rintro ⟨hname, rest, hrest, hsteps⟩
    have hscan : scan .start [] s.toList = .ok p.segments := by
      rw [hrest, scan_fresh (Or.inl rfl) hname, scan_name_end hsteps.head, scan_of_spells hsteps]
      simp [nameOf, segments]
    rw [parse, hscan]
    rfl

/-! ## Points before brackets -/

section

variable {cs rest : List Char}

theorem IsName.not_mem {name : String} (h : IsName name) : '.' ∉ name.toList :=
  fun hmem => (ne_of_isNameChar (h.2 _ hmem)).2 rfl

theorem infix_append_iff (h : '.' ∉ cs) : ['.', '['] <:+: cs ++ rest ↔ ['.', '['] <:+: rest := by
  induction cs with
  | nil => rfl
  | cons c cs ih =>
      obtain ⟨hc, hcs⟩ := not_or.mp (mt List.mem_cons.mpr h)
      rw [List.cons_append, List.infix_cons_iff, List.cons_prefix_cons, ih hcs]
      simp [hc]

theorem infix_key_iff {name : String} (h : IsName name) :
    ['.', '['] <:+: '.' :: (name.toList ++ rest) ↔ ['.', '['] <:+: rest := by
  have hbracket : ¬['['] <+: name.toList ++ rest := by
    obtain ⟨c, cs, he⟩ := List.exists_cons_of_ne_nil h.1
    have hc : c ≠ '[' := (ne_of_isNameChar (h.2 c (he ▸ List.mem_cons_self))).1
    simpa [he] using hc.symm
  rw [List.infix_cons_iff, List.cons_prefix_cons, infix_append_iff h.not_mem]
  simp [hbracket]

theorem WritesIndex.not_mem {n : Nat} (h : WritesIndex cs n) : '.' ∉ cs := by
  obtain ⟨_, digits, hcs, _, hdigits, _⟩ := h
  intro hmem
  have htrim : '.' ∈ Text.trimChars cs := Text.mem_trimChars hmem (by decide)
  have hdigit : '.' ∈ digits := by
    rcases hcs with hcs | hcs <;> simpa [hcs] using htrim
  exact absurd (hdigits _ hdigit) (by decide)

theorem infix_index_iff {n : Nat} (h : WritesIndex cs n) :
    ['.', '['] <:+: '[' :: (cs ++ ']' :: rest) ↔ ['.', '['] <:+: rest := by
  have hfront : '.' ∉ '[' :: (cs ++ [']']) := by simp [h.not_mem]
  have he : '[' :: (cs ++ ']' :: rest) = '[' :: (cs ++ [']']) ++ rest := by simp
  rw [he, infix_append_iff hfront]

/-- The plain grammar is what is left without points before brackets. -/
theorem spells_false_iff {steps : List Segment} :
    Spells false cs steps ↔ Spells true cs steps ∧ ¬['.', '['] <:+: cs := by
  constructor
  · intro h
    induction h with
    | nil => exact ⟨.nil, by simp⟩
    | key hname _ ih => exact ⟨.key hname ih.1, mt (infix_key_iff hname).mp ih.2⟩
    | index hinner _ ih => exact ⟨.index hinner ih.1, mt (infix_index_iff hinner).mp ih.2⟩
    | point hfalse => cases hfalse
  · rintro ⟨h, hplain⟩
    induction h with
    | nil => exact .nil
    | key hname _ ih => exact .key hname (ih (mt (infix_key_iff hname).mpr hplain))
    | index hinner _ ih => exact .index hinner (ih (mt (infix_index_iff hinner).mpr hplain))
    | @point rest => exact absurd ⟨[], rest, rfl⟩ hplain

/-- The texts of the plain grammar are those without a point before a bracket. -/
theorem spelled_false_iff {s : String} {p : FieldPath} :
    Spelled false s p ↔ Spelled true s p ∧ ¬['.', '['] <:+: s.toList := by
  constructor
  · rintro ⟨hname, rest, hrest, hsteps⟩
    obtain ⟨hlax, hplain⟩ := spells_false_iff.mp hsteps
    refine ⟨⟨hname, rest, hrest, hlax⟩, ?_⟩
    rwa [hrest, infix_append_iff hname.not_mem]
  · rintro ⟨⟨hname, rest, hrest, hsteps⟩, hplain⟩
    rw [hrest, infix_append_iff hname.not_mem] at hplain
    exact ⟨hname, rest, hrest, spells_false_iff.mpr ⟨hsteps, hplain⟩⟩

end

/-- Exactly the texts that spell a path if a point may stand before a bracket are read, each as that
path.  Those of the plain grammar are the ones among them that have no point before a bracket. -/
theorem reads_grammar (s : String) (p : FieldPath) :
    (parse s = .ok p ↔ Spelled true s p) ∧
    (Spelled false s p ↔ parse s = .ok p ∧ ¬['.', '['] <:+: s.toList) :=
  ⟨parse_eq_ok_iff, by rw [parse_eq_ok_iff, spelled_false_iff]⟩

/-- A point before a bracket is passed over, although the plain grammar has none there. -/
theorem reads_point_before_bracket :
    parse "a.[0]" = .ok ⟨"a", [.index 0]⟩ ∧ ¬∃ p, Spelled false "a.[0]" p := by
  refine ⟨by decide +kernel, ?_⟩
  rintro ⟨p, h⟩
  exact (spelled_false_iff.mp h).2 ⟨['a'], ['0', ']'], rfl⟩

end FieldPath

end PageBuilder
