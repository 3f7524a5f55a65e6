import PageBuilder.Document.Basic
import Mathlib.Data.List.Nodup

/-!
# The ids of a document

The ids of a document are pairwise distinct and below the next free one (`Distinct`).  A document is
*sound* if also its selection names a component and the next free id is a 64-bit word.  Both ways of
giving ids anew lead to a sound document: numbering all components (`renumber_sound`), and replacing
the ids that stand there twice when components are loaded (`ofComponents_sound`).
-/

namespace PageBuilder.Document

/-- The ids of the components, in their order. -/
def ids (d : Document) : List Nat := d.components.map Component.id

/-- No id is there twice, and the next one is free. -/
structure Distinct (d : Document) : Prop where
  unique : d.ids.Nodup
  fresh : ∀ id ∈ d.ids, id < d.nextId

/-- The selection, if there is one, is that of a component. -/
def Selects (d : Document) : Prop := ∀ id, d.selected = some id → id ∈ d.ids

/-- What every document keeps. -/
structure Sound (d : Document) : Prop extends Distinct d where
  selects : ∀ id, d.selected = some id → id ∈ d.ids
  word : d.nextId ≤ maxWord

@[simp] theorem length_ids (d : Document) : d.ids.length = d.components.length := by
  simp [ids]

theorem empty_sound (limit : Nat) : (empty limit).Sound where
  unique := List.nodup_nil
  selects := by intro id h; cases h
  fresh := by intro id h; cases h
  word := Nat.le_of_lt (show 1 < maxWord by decide)

/-! ## Looking ids up -/

/-- A component is found exactly under the ids that are in use. -/
theorem isSome_get?_iff {d : Document} {id : Nat} : (d.get? id).isSome ↔ id ∈ d.ids := by
  simp [get?, ids]

/-- What is found under an id has it. -/
theorem mem_of_get? {d : Document} {id : Nat} {c : Component} (h : d.get? id = some c) :
    c ∈ d.components ∧ c.id = id :=
  ⟨List.mem_of_find?_eq_some h, by simpa using List.find?_some h⟩

/-- A position that was found is one of the list. -/
theorem lt_of_position? {id index : Nat} {cs : List Component}
    (h : position? id cs = some index) : index < cs.length := by
  obtain ⟨hlt, _⟩ := List.findIdx?_eq_some_iff_getElem.mp h
  exact hlt

/-- At the position of an id stands a component that has it. -/
theorem getElem?_of_position? {id index : Nat} {cs : List Component}
    (h : position? id cs = some index) : ∃ c, cs[index]? = some c ∧ c.id = id := by
  obtain ⟨hlt, hid, _⟩ := List.findIdx?_eq_some_iff_getElem.mp h
  exact ⟨cs[index], List.getElem?_eq_getElem hlt, beq_iff_eq.mp hid⟩

/-- If no id is there twice, each component stands at the position of its id. -/
theorem position?_of_getElem? {index : Nat} {cs : List Component} {c : Component}
    (hnodup : (cs.map Component.id).Nodup) (h : cs[index]? = some c) :
    position? c.id cs = some index := by
  obtain ⟨hlt, rfl⟩ := List.getElem?_eq_some_iff.mp h
  refine List.findIdx?_eq_some_iff_getElem.mpr ⟨hlt, beq_self_eq_true _, fun j hj hid => ?_⟩
  have hindex : index < (cs.map Component.id).length := by rwa [List.length_map]
  have hjlt : j < (cs.map Component.id).length := Nat.lt_trans hj hindex
  have heq : (cs.map Component.id)[j] = (cs.map Component.id)[index] := by simpa using hid
  exact absurd ((List.Nodup.getElem_inj_iff hnodup).mp heq) (Nat.ne_of_lt hj)

/-! ## Numbering anew -/

theorem map_id_numberFrom (n : Nat) (cs : List Component) :
    (numberFrom n cs).map Component.id = List.range' n cs.length := by
  induction cs generalizing n with
  | nil => rfl
  | cons c rest ih => simp [numberFrom, ih, List.range'_succ]

theorem length_numberFrom (n : Nat) (cs : List Component) :
    (numberFrom n cs).length = cs.length := by
  induction cs generalizing n with
  | nil => rfl
  | cons c rest ih => simp [numberFrom, ih]

/-- Numbering keeps the position, the kind and the data of each component. -/
theorem getElem?_numberFrom (cs : List Component) : ∀ n i : Nat,
    (numberFrom n cs)[i]? = cs[i]?.map fun c => { c with id := n + i } := by
  induction cs with
  | nil => exact fun _ _ => rfl
  | cons c rest ih =>
      intro n i
      cases i with
      | zero => rfl
      | succ i =>
          rw [numberFrom, List.getElem?_cons_succ, List.getElem?_cons_succ, ih, Nat.add_right_comm,
            Nat.add_assoc]

/-- The ids of a document that was numbered anew are 1, 2, 3, …. -/
theorem ids_renumber (d : Document) : d.renumber.ids = List.range' 1 d.components.length :=
  map_id_numberFrom 1 d.components

@[simp] theorem length_renumber (d : Document) :
    d.renumber.components.length = d.components.length :=
  length_numberFrom 1 d.components

theorem mem_ids_renumber {d : Document} {id : Nat} :
    id ∈ d.renumber.ids ↔ 1 ≤ id ∧ id ≤ d.components.length := by
  rw [ids_renumber, List.mem_range'_1]
  omega

theorem renumber_distinct (d : Document) : d.renumber.Distinct where
  unique := by
    rw [ids_renumber]
    exact List.nodup_range'
  fresh := by
    intro id hid
    have hle := (mem_ids_renumber.mp hid).2
    simp only [renumber]
    omega

theorem renumber_selects (d : Document) : d.renumber.Selects := by
  intro id hid
  simp only [renumber, Option.map_eq_some_iff, Option.bind_eq_some_iff] at hid
  obtain ⟨index, ⟨old, _, hindex⟩, rfl⟩ := hid
  have hlt := lt_of_position? hindex
  exact mem_ids_renumber.mpr ⟨by omega, by omega⟩

/-- Numbering anew needs nothing of the document but that the numbers fit. -/
theorem renumber_sound {d : Document} (h : d.components.length < maxWord) : d.renumber.Sound where
  toDistinct := renumber_distinct d
  selects := renumber_selects d
  word := h

/-! ## Replacing repeated ids -/

/-- Separated ids are distinct, differ from those seen before, and lie below the first free id
that is left; each component uses up at most one free id. -/
theorem separate_spec (cs : List Component) : ∀ (free : Nat) (seen : List Nat),
    (∀ id ∈ seen, id < free) → (∀ c ∈ cs, c.id < free) →
      ((separate free seen cs).1.map Component.id).Nodup ∧
      (∀ id ∈ (separate free seen cs).1.map Component.id,
        id ∉ seen ∧ id < (separate free seen cs).2) ∧
      free ≤ (separate free seen cs).2 ∧
      (separate free seen cs).2 ≤ free + cs.length := by
  induction cs with
  | nil =>
      intro free seen _ _
      simp [separate]
  | cons c rest ih =>
      intro free seen hseen hcs
      have hc : c.id < free := hcs c List.mem_cons_self
      have hrest : ∀ x ∈ rest, x.id < free := fun x hx => hcs x (List.mem_cons_of_mem c hx)
      by_cases hmem : c.id ∈ seen
      · -- The id was seen: the component takes `free`, which counts as seen from here on.
        have hseen' : ∀ id ∈ free :: seen, id < free + 1 := by
          intro id hid
          rcases List.mem_cons.mp hid with he | ho
          · omega
          · exact Nat.lt_succ_of_lt (hseen id ho)
        obtain ⟨hnodup, hall, hle, hge⟩ :=
          ih (free + 1) (free :: seen) hseen' (fun x hx => Nat.lt_succ_of_lt (hrest x hx))
        have hfree : free ∉ seen := fun h => Nat.lt_irrefl free (hseen free h)
        simp only [separate, List.contains_iff_mem, hmem, if_true, List.map_cons,
          List.nodup_cons, List.mem_cons, List.length_cons]
        refine ⟨⟨fun h => (hall free h).1 List.mem_cons_self, hnodup⟩, ?_, by omega, by omega⟩
        rintro id (rfl | hid)
        · exact ⟨hfree, by omega⟩
        · exact ⟨fun h => (hall id hid).1 (List.mem_cons_of_mem free h), (hall id hid).2⟩
      · have hseen' : ∀ id ∈ c.id :: seen, id < free := by
          intro id hid
          rcases List.mem_cons.mp hid with he | ho
          · exact he ▸ hc
          · exact hseen id ho
        obtain ⟨hnodup, hall, hle, hge⟩ := ih free (c.id :: seen) hseen' hrest
        simp only [separate, List.contains_iff_mem, hmem, if_false, List.map_cons,
          List.nodup_cons, List.mem_cons, List.length_cons]
        refine ⟨⟨fun h => (hall c.id h).1 List.mem_cons_self, hnodup⟩, ?_, hle, by omega⟩
        rintro id (rfl | hid)
        · exact ⟨hmem, by omega⟩
        · exact ⟨fun h => (hall id hid).1 (List.mem_cons_of_mem c.id h), (hall id hid).2⟩

/-- No id is above the greatest one. -/
theorem le_maxId {cs : List Component} {c : Component} (h : c ∈ cs) : c.id ≤ maxId cs := by
  have hmax : (0 :: cs.map Component.id).max? = some (maxId cs) := by
    rw [List.max?_cons', List.foldl_map]
    rfl
  exact (List.max?_eq_some_iff.mp hmax).2 c.id (List.mem_cons_of_mem 0 (List.mem_map_of_mem h))

/-- With room above the greatest id, the ids that are there once are kept, and others given out. -/
theorem ofComponents_eq {cs : List Component} (limit : Nat)
    (hroom : maxId cs + (cs.length + 1) ≤ maxWord) :
    ofComponents cs limit =
      ⟨(separate (maxId cs + 1) [] cs).1, none, limit, (separate (maxId cs + 1) [] cs).2⟩ := by
  rw [ofComponents, if_neg (Nat.not_lt.mpr hroom)]

theorem ofComponents_of_lt {cs : List Component} (limit : Nat)
    (hlt : maxWord < maxId cs + (cs.length + 1)) :
    ofComponents cs limit = renumber ⟨cs, none, limit, 1⟩ := if_pos hlt

theorem selected_ofComponents (cs : List Component) (limit : Nat) :
    (ofComponents cs limit).selected = none ∧ (ofComponents cs limit).limit = limit := by
  rw [ofComponents]
  split <;> exact ⟨rfl, rfl⟩

theorem separate_maxId_spec (cs : List Component) :
    ((separate (maxId cs + 1) [] cs).1.map Component.id).Nodup ∧
    (∀ id ∈ (separate (maxId cs + 1) [] cs).1.map Component.id,
      id < (separate (maxId cs + 1) [] cs).2) ∧
    (separate (maxId cs + 1) [] cs).2 ≤ maxId cs + 1 + cs.length := by
  obtain ⟨hnodup, hall, _, hle⟩ :=
    separate_spec cs (maxId cs + 1) [] (List.forall_mem_nil _)
      fun c hc => Nat.lt_succ_of_le (le_maxId hc)
  exact ⟨hnodup, fun id hid => (hall id hid).2, hle⟩

theorem ofComponents_selects (cs : List Component) (limit : Nat) :
    (ofComponents cs limit).Selects := by
  intro id hid
  rw [(selected_ofComponents cs limit).1] at hid
  cases hid

theorem ofComponents_distinct (cs : List Component) (limit : Nat) :
    (ofComponents cs limit).Distinct := by
  by_cases hroom : maxId cs + (cs.length + 1) ≤ maxWord
  · obtain ⟨hnodup, hall, _⟩ := separate_maxId_spec cs
    rw [ofComponents_eq limit hroom]
    exact ⟨hnodup, hall⟩
  · rw [ofComponents_of_lt limit (Nat.lt_of_not_le hroom)]
    exact renumber_distinct _

/-- Loaded components make a sound document, whatever their ids. -/
theorem ofComponents_sound {cs : List Component} (limit : Nat) (h : cs.length < maxWord) :
    (ofComponents cs limit).Sound := by
  by_cases hroom : maxId cs + (cs.length + 1) ≤ maxWord
  · have hle := (separate_maxId_spec cs).2.2
    refine ⟨ofComponents_distinct cs limit, ofComponents_selects cs limit, ?_⟩
    rw [ofComponents_eq limit hroom]
    show (separate (maxId cs + 1) [] cs).2 ≤ maxWord
    omega
  · rw [ofComponents_of_lt limit (Nat.lt_of_not_le hroom)]
    exact renumber_sound h

/-- Ids that are distinct and none of those seen stay as they are. -/
theorem separate_of_nodup (free : Nat) (cs : List Component) : ∀ {seen : List Nat},
    (cs.map Component.id).Nodup → (∀ c ∈ cs, c.id ∉ seen) → (separate free seen cs).1 = cs := by
  induction cs with
  | nil => exact fun _ _ => rfl
  | cons c rest ih =>
      intro seen hnodup hseen
      obtain ⟨hc, hrest⟩ := List.forall_mem_cons.mp hseen
      rw [List.map_cons, List.nodup_cons] at hnodup
      have hseen' : ∀ x ∈ rest, x.id ∉ c.id :: seen := by
        intro x hx hmem
        rcases List.mem_cons.mp hmem with he | hold
        · exact hnodup.1 (he ▸ List.mem_map_of_mem hx)
        · exact hrest x hx hold
      simp [separate, hc, ih hnodup.2 hseen']

/-- Components with distinct ids are loaded as they are, if there is room above the greatest one. -/
theorem components_ofComponents {cs : List Component} (limit : Nat)
    (hroom : maxId cs + (cs.length + 1) ≤ maxWord) (h : (cs.map Component.id).Nodup) :
    (ofComponents cs limit).components = cs := by
  rw [ofComponents_eq limit hroom]
  exact separate_of_nodup _ cs h fun _ _ => List.not_mem_nil

end PageBuilder.Document
