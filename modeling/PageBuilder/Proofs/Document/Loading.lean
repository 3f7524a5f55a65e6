import Mathlib.Data.List.Induction
import PageBuilder.Proofs.Document.Failure
import PageBuilder.Proofs.Document.Lifetime

/-!
# Loading components

Components that were stored may have ids that are there twice, or so great that no other can follow.
Loading mends the ids and nothing else (`ids_of_loaded`).  If there is room above the greatest id,
the first component with an id keeps it, and the later ones take the numbers from the greatest id
on, in their order (`Mended`).  Otherwise the ids become 1, 2, 3, ….

Which positions repeat an id is said by `repetitions`, so that the ids given out can be read off
there as consecutive numbers.
-/

namespace PageBuilder

/-- What a component is, whatever its id. -/
def Component.label (c : Component) : String × Object := (c.typeName, c.data)

namespace Document

/-! ## Repeated ids -/

/-- The positions of the ids that also stand before, in their order. -/
def repetitions (ids : List Nat) : List Nat :=
  (List.range ids.length).filter fun i => ids[i]?.any (ids.take i).contains

theorem lt_of_mem_repetitions {ids : List Nat} {i : Nat} (h : i ∈ repetitions ids) :
    i < ids.length :=
  List.mem_range.mp (List.mem_filter.mp h).1

theorem mem_repetitions {ids : List Nat} {i id : Nat} (h : ids[i]? = some id) :
    i ∈ repetitions ids ↔ id ∈ ids.take i := by
  have hlt := List.mem_range.mpr (List.getElem?_eq_some_iff.mp h).1
  rw [repetitions, List.mem_filter, h, Option.any_some, List.contains_iff_mem]
  exact and_iff_right hlt

theorem repetitions_append (ids : List Nat) (id : Nat) :
    repetitions (ids ++ [id]) = repetitions ids ++ if id ∈ ids then [ids.length] else [] := by
  have hbefore : ∀ i ∈ List.range ids.length,
      (ids ++ [id])[i]?.any ((ids ++ [id]).take i).contains =
        ids[i]?.any (ids.take i).contains := by
    intro i hi
    have hlt := List.mem_range.mp hi
    rw [List.getElem?_append_left hlt, List.take_append_of_le_length (Nat.le_of_lt hlt)]
  rw [repetitions, List.length_append, List.length_singleton, List.range_succ, List.filter_append,
    List.filter_congr hbefore, repetitions]
  congr 1
  by_cases h : id ∈ ids <;> simp [h]

/-! ## Replacing repeated ids -/

theorem map_label_separate (cs : List Component) : ∀ (free : Nat) (seen : List Nat),
    (separate free seen cs).1.map Component.label = cs.map Component.label := by
  induction cs with
  | nil => exact fun _ _ => rfl
  | cons c rest ih =>
      intro free seen
      rw [separate]
      split <;> simp [Component.label, ih]

/-- The last component takes the next free id if its own was seen or stands before it. -/
theorem separate_append (cs : List Component) (c : Component) : ∀ (free : Nat) (seen : List Nat),
    c.id < free →
    separate free seen (cs ++ [c]) =
      let (separated, free) := separate free seen cs
      if c.id ∈ seen ∨ c.id ∈ cs.map Component.id then
        (separated ++ [{ c with id := free }], free + 1)
      else (separated ++ [c], free) := by
  induction cs with
  | nil =>
      intro free seen _
      by_cases h : c.id ∈ seen <;> simp [separate, h]
  | cons x rest ih =>
      intro free seen hlt
      by_cases hx : x.id ∈ seen
      · have hmem : (c.id ∈ free :: seen ∨ c.id ∈ rest.map Component.id) ↔
            (c.id ∈ seen ∨ c.id ∈ (x :: rest).map Component.id) := by
          have hne : c.id ≠ free := Nat.ne_of_lt hlt
          have hsame : c.id = x.id → c.id ∈ seen := fun h => h ▸ hx
          simp only [List.mem_cons, List.map_cons]
          tauto
        simp only [List.cons_append, separate, List.contains_iff_mem, hx, if_true,
          ih (free + 1) (free :: seen) (Nat.lt_succ_of_lt hlt), hmem]
        split <;> rfl
      · have hmem : (c.id ∈ x.id :: seen ∨ c.id ∈ rest.map Component.id) ↔
            (c.id ∈ seen ∨ c.id ∈ (x :: rest).map Component.id) := by
          simp only [List.mem_cons, List.map_cons]
          tauto
        simp only [List.cons_append, separate, List.contains_iff_mem, hx, if_false,
          ih free (x.id :: seen) hlt, hmem]
        split <;> rfl

/-! ## Ids that were mended -/

/-- How ids are mended: an id is kept where it is no repetition, and the repetitions are numbered
from `free` on. -/
structure Mended (free : Nat) (ids mended : List Nat) : Prop where
  length_eq : mended.length = ids.length
  kept : ∀ i, i ∉ repetitions ids → mended[i]? = ids[i]?
  numbered : (repetitions ids).map (mended[·]?) =
    (List.range' free (repetitions ids).length).map some

variable {free id : Nat} {ids mended : List Nat}

/-- What is said of the repetitions stays true when an id follows. -/
theorem Mended.map_append (h : Mended free ids mended) (id : Nat) :
    (repetitions ids).map ((mended ++ [id])[·]?) =
      (List.range' free (repetitions ids).length).map some := by
  rw [← h.numbered]
  refine List.map_congr_left fun i hi => ?_
  exact List.getElem?_append_left (h.length_eq ▸ lt_of_mem_repetitions hi)

theorem Mended.kept_append (h : Mended free ids mended) {last given i : Nat}
    (hi : i ∉ repetitions ids) (hlast : i = ids.length → given = last) :
    (mended ++ [given])[i]? = (ids ++ [last])[i]? := by
  rcases Nat.lt_trichotomy i ids.length with hlt | heq | hgt
  · rw [List.getElem?_append_left (h.length_eq ▸ hlt), List.getElem?_append_left hlt, h.kept i hi]
  · rw [hlast heq, heq, List.getElem?_concat_length, ← h.length_eq, List.getElem?_concat_length]
  · rw [List.getElem?_eq_none (by simp [h.length_eq]; omega),
      List.getElem?_eq_none (by simp; omega)]

theorem Mended.repeated (h : Mended free ids mended) (hid : id ∈ ids) :
    Mended free (ids ++ [id]) (mended ++ [free + (repetitions ids).length]) := by
  have hreps : repetitions (ids ++ [id]) = repetitions ids ++ [ids.length] := by
    rw [repetitions_append, if_pos hid]
  refine ⟨by simp [h.length_eq], fun i hi => ?_, ?_⟩
  · rw [hreps, List.mem_append, List.mem_singleton, not_or] at hi
    exact h.kept_append hi.1 fun heq => absurd heq hi.2
  · rw [hreps, List.map_append, h.map_append, List.length_append, List.length_singleton,
      List.range'_concat, List.map_append]
    simp [← h.length_eq]

theorem Mended.unrepeated (h : Mended free ids mended) (hid : id ∉ ids) :
    Mended free (ids ++ [id]) (mended ++ [id]) := by
  have hreps : repetitions (ids ++ [id]) = repetitions ids := by
    rw [repetitions_append, if_neg hid, List.append_nil]
  refine ⟨by simp [h.length_eq], fun i hi => ?_, ?_⟩
  · rw [hreps] at hi
    exact h.kept_append hi fun _ => rfl
  · rw [hreps, h.map_append]

/-- An id below the free ones is kept exactly where it is no repetition. -/
theorem Mended.kept_iff (h : Mended free ids mended) (hlt : id < free) {i : Nat}
    (hid : ids[i]? = some id) : mended[i]? = some id ↔ i ∉ repetitions ids := by
  refine ⟨fun hkept hi => ?_, fun hi => (h.kept i hi).trans hid⟩
  have hgiven : mended[i]? ∈ (repetitions ids).map (mended[·]?) := List.mem_map_of_mem hi
  rw [h.numbered, hkept, List.mem_map] at hgiven
  obtain ⟨given, hrange, he⟩ := hgiven
  have hle := (List.mem_range'_1.mp hrange).1
  cases he
  omega

/-- Components with ids below `free` are separated by mending their ids, and each repetition uses up
one free id. -/
theorem mended_separate (cs : List Component) : (∀ c ∈ cs, c.id < free) →
    Mended free (cs.map Component.id) ((separate free [] cs).1.map Component.id) ∧
      (separate free [] cs).2 = free + (repetitions (cs.map Component.id)).length := by
  -- From the end of the list, since a repetition is one of what stands before.
  induction cs using List.reverseRecOn with
  | nil => exact fun _ => ⟨⟨rfl, fun _ _ => rfl, rfl⟩, rfl⟩
  | append_singleton cs c ih =>
      intro hlt
      obtain ⟨hmended, hfree⟩ := ih fun x hx => hlt x (List.mem_append_left _ hx)
      rw [separate_append cs c free [] (hlt c (by simp))]
      by_cases hc : c.id ∈ cs.map Component.id
      · simp only [hc, or_true, if_true, List.map_append, List.map_cons, List.map_nil, hfree]
        refine ⟨hmended.repeated hc, ?_⟩
        rw [repetitions_append, if_pos hc, List.length_append, List.length_singleton, Nat.add_assoc]
      · simp only [hc, List.not_mem_nil, or_self, if_false, List.map_append, List.map_cons,
          List.map_nil]
        refine ⟨hmended.unrepeated hc, ?_⟩
        rw [repetitions_append, if_neg hc, List.append_nil, hfree]

/-! ## Loaded documents -/

/-- The first id is no repetition. -/
theorem length_repetitions_le (ids : List Nat) : (repetitions ids).length ≤ ids.length - 1 := by
  induction ids using List.reverseRecOn with
  | nil => exact Nat.le_refl 0
  | append_singleton ids id ih =>
      rw [repetitions_append, List.length_append, List.length_append, List.length_singleton]
      by_cases hid : id ∈ ids
      · have hpos := List.length_pos_of_mem hid
        rw [if_pos hid, List.length_singleton]
        omega
      · rw [if_neg hid, List.length_nil]
        omega

theorem map_label_numberFrom (cs : List Component) : ∀ n : Nat,
    (numberFrom n cs).map Component.label = cs.map Component.label := by
  induction cs with
  | nil => exact fun _ => rfl
  | cons c rest ih => exact fun n => congrArg (c.label :: ·) (ih (n + 1))

theorem ids_ofComponents_of_lt {cs : List Component} (limit : Nat)
    (hlt : maxWord < maxId cs + (cs.length + 1)) :
    (ofComponents cs limit).ids = List.range' 1 cs.length := by
  rw [ofComponents_of_lt limit hlt, ids_renumber]

/-- With room above the greatest id, loading mends the ids, and the next id follows them. -/
theorem mended_ofComponents {cs : List Component} (limit : Nat)
    (hroom : maxId cs + (cs.length + 1) ≤ maxWord) :
    Mended (maxId cs + 1) (cs.map Component.id) (ofComponents cs limit).ids ∧
      (ofComponents cs limit).nextId =
        maxId cs + 1 + (repetitions (cs.map Component.id)).length := by
  rw [ofComponents_eq limit hroom]
  exact mended_separate cs fun c hc => Nat.lt_succ_of_le (le_maxId hc)

/-- Neither way of giving ids changes what a component is. -/
theorem labels_ofComponents (cs : List Component) (limit : Nat) :
    (ofComponents cs limit).components.map Component.label = cs.map Component.label := by
  by_cases hroom : maxId cs + (cs.length + 1) ≤ maxWord
  · rw [ofComponents_eq limit hroom]
    exact map_label_separate cs _ _
  · rw [ofComponents_of_lt limit (Nat.lt_of_not_le hroom)]
    exact map_label_numberFrom cs 1

/-- The next id is the last word only if the ids were given anew and the list is just too long. -/
theorem nextId_ofComponents (cs : List Component) (limit : Nat) :
    (ofComponents cs limit).nextId < maxWord ∨
      (ofComponents cs limit).nextId = cs.length + 1 ∧
        (ofComponents cs limit).ids = List.range' 1 cs.length := by
  by_cases hroom : maxId cs + (cs.length + 1) ≤ maxWord
  · refine Or.inl ?_
    rw [(mended_ofComponents limit hroom).2]
    have hle := length_repetitions_le (cs.map Component.id)
    rw [List.length_map] at hle
    rcases Nat.eq_zero_or_pos cs.length with hzero | hpos
    · rw [List.length_eq_zero_iff.mp hzero]
      decide
    · omega
  · have hlt := Nat.lt_of_not_le hroom
    refine Or.inr ⟨?_, ids_ofComponents_of_lt limit hlt⟩
    rw [ofComponents_of_lt limit hlt, renumber]

/-! ## The next addition -/

/-- Every addition among the operations fails. -/
def AddsNothing (d : Document) : List Operation → Prop
  | [] => True
  | operation :: rest =>
      (∀ typeName, operation = .add typeName → ∃ e, (d.add typeName).1 = .error e) ∧
        (d.perform operation).AddsNothing rest

theorem nextId_after : ∀ {operations : List Operation} {d : Document}, d.AddsNothing operations →
    (d.after operations).nextId = d.nextId := by
  intro operations
  induction operations with
  | nil => exact fun _ => rfl
  | cons operation rest ih =>
      intro d h
      rw [after, ih h.2]
      cases hadds : operation.adds with
      | false => exact nextId_perform hadds
      | true =>
          cases operation with
          | add typeName =>
              obtain ⟨e, he⟩ := h.1 typeName rfl
              exact congrArg nextId (eq_of_add_error he)
          | _ => cases hadds

/-- A component that is added to a loaded document has an id of its own. -/
theorem not_mem_ids_of_loaded {cs : List Component} {limit : Nat} {operations : List Operation}
    (hadds : (ofComponents cs limit).AddsNothing operations)
    (hlength : operations = [] ∨ cs.length < 2 ^ 63) {typeName : String} {id : Nat}
    {d' : Document} (h : ((ofComponents cs limit).after operations).add typeName = (.ok id, d')) :
    id ∉ (ofComponents cs limit).ids := by
  have hid := id_of_add h
  rw [nextId_after hadds] at hid
  by_cases hlast : (ofComponents cs limit).nextId = maxWord
  · rcases nextId_ofComponents cs limit with hlt | ⟨hnext, hids⟩
    · omega
    · rcases hlength with rfl | hshort
      · rw [if_pos hlast, after] at hid
        have hsame := congrArg List.length (labels_ofComponents cs limit)
        rw [List.length_map, List.length_map] at hsame
        rw [hids, List.mem_range'_1]
        omega
      · have : 2 ^ 63 < maxWord := by decide
        omega
  · rw [if_neg hlast] at hid
    intro hmem
    exact Nat.lt_irrefl id (hid ▸ (ofComponents_distinct cs limit).fresh id hmem)

/-- However many components are loaded, with whatever ids: their number and order, their kinds and
their data are kept, and nothing is selected.  If there is room above the greatest id, each id that
is no repetition is kept, and the repetitions are numbered from just above the greatest one, in
their order; otherwise the ids become 1, 2, 3, ….  Either way the ids are distinct, and the next
component that is added has none of them: the one that is added straight away, and, if the list is
of a length that can be, also the first that is added after other operations. -/
theorem ids_of_loaded (cs : List Component) (limit : Nat) :
    let d := ofComponents cs limit
    let ids := cs.map Component.id
    d.components.map Component.label = cs.map Component.label ∧
    d.selected = none ∧ d.limit = limit ∧
    (maxId cs + (cs.length + 1) ≤ maxWord →
      (∀ i, i ∉ repetitions ids → d.ids[i]? = ids[i]?) ∧
      (repetitions ids).map (d.ids[·]?) =
        (List.range' (maxId cs + 1) (repetitions ids).length).map some) ∧
    (maxWord < maxId cs + (cs.length + 1) → d.ids = List.range' 1 cs.length) ∧
    d.ids.Nodup ∧
    (cs.length < 2 ^ 63 → d.nextId < maxWord) ∧ (∀ id ∈ d.ids, id < d.nextId) ∧
    ∀ operations, operations = [] ∨ cs.length < 2 ^ 63 → d.AddsNothing operations →
      ∀ typeName id d', (d.after operations).add typeName = (.ok id, d') → id ∉ d.ids := by
  obtain ⟨hselected, hlimit⟩ := selected_ofComponents cs limit
  obtain ⟨hunique, hfresh⟩ := ofComponents_distinct cs limit
  refine ⟨labels_ofComponents cs limit, hselected, hlimit, fun hroom => ?_,
    ids_ofComponents_of_lt limit, hunique, fun hlength => ?_, hfresh, ?_⟩
  · obtain ⟨⟨_, hkept, hnumbered⟩, _⟩ := mended_ofComponents limit hroom
    exact ⟨hkept, hnumbered⟩
  · have : 2 ^ 63 < maxWord := by decide
    rcases nextId_ofComponents cs limit with hlt | ⟨hnext, _⟩
    · exact hlt
    · omega
  · intro operations hlength hadds typeName id d' hadd
    exact not_mem_ids_of_loaded hadds hlength hadd

/-- Five components, three of which have the same id, on a page for three. -/
def crowded : List Component :=
  [⟨7, "hero", []⟩, ⟨7, "text", []⟩, ⟨0, "cta", []⟩, ⟨7, "faq", []⟩, ⟨8, "footer", []⟩]

/-- The last word twice, and no room above it. -/
def topmost : List Component :=
  [⟨9, "hero", []⟩, ⟨maxWord, "text", []⟩, ⟨maxWord, "cta", []⟩]

/-- The repetitions of 7 become 9 and 10, and after the limit was raised the next id is 11; without
room the ids become 1, 2 and 3. -/
theorem ids_of_loaded_crowded :
    maxId crowded + (crowded.length + 1) ≤ maxWord ∧
    repetitions (crowded.map Component.id) = [1, 3] ∧
    [1, 3].map ((ofComponents crowded 3).ids[·]?) = [some 9, some 10] ∧
    (ofComponents crowded 3).ids[4]? = some 8 ∧
    (ofComponents crowded 3).AddsNothing [.add "hero", .setLimit 9] ∧
    11 ∉ (ofComponents crowded 3).ids ∧
    maxWord < maxId topmost + (topmost.length + 1) ∧
    (ofComponents topmost 3).ids = [1, 2, 3] := by
  obtain ⟨_, _, _, hmended, _, _, _, _, hadd⟩ := ids_of_loaded crowded 3
  obtain ⟨_, _, _, _, hanew, _⟩ := ids_of_loaded topmost 3
  have hroom : maxId crowded + (crowded.length + 1) ≤ maxWord := by decide
  have hfull : maxWord < maxId topmost + (topmost.length + 1) := by decide
  have hreps : repetitions (crowded.map Component.id) = [1, 3] := by decide
  obtain ⟨hkept, hnumbered⟩ := hmended hroom
  rw [hreps] at hkept hnumbered
  have hfails : (ofComponents crowded 3).AddsNothing [.add "hero", .setLimit 9] :=
    ⟨fun typeName _ => ⟨.limitReached 3, by rfl⟩, nofun, trivial⟩
  refine ⟨hroom, hreps, hnumbered, hkept 4 (by decide), hfails, ?_, hfull, hanew hfull⟩
  exact hadd _ (Or.inr (by decide)) hfails "cta" 11 _ (Prod.ext (by decide +kernel) rfl)

end Document

end PageBuilder
