import PageBuilder.Proofs.Document.Identity

/-!
# The lifetime of ids

An id names one component as long as that is in the document.  Each component that an operation
leaves stood somewhere before, and `origin?` says where; it has the id and the kind that it had
there, and its data too unless the operation writes that (`traced_perform`).  Over a run the
positions are followed back one operation after the other (`source?`, `traced_after`).

The next id never goes back, so no id is given out twice, not even one whose component was removed
in the meantime.  All this ends when an addition finds that the next id is the last word: then all
components are numbered anew, in their order (`add_of_last`).
-/

namespace PageBuilder.Document

/-! ## Runs -/

/-- The documents that can come up, however many components they hold. -/
inductive Arises : Document → Prop where
  | empty (limit : Nat) : Arises (.empty limit)
  | ofComponents (components : List Component) (limit : Nat) :
      Arises (.ofComponents components limit)
  | perform {d : Document} (operation : Operation) : Arises d → Arises (d.perform operation)

theorem Arises.distinct {d : Document} (h : Arises d) : d.Distinct := by
  induction h with
  | empty limit => exact (empty_sound limit).toDistinct
  | ofComponents components limit => exact ofComponents_distinct components limit
  | perform operation _ ih => exact perform_distinct ih operation

theorem Arises.selects {d : Document} (h : Arises d) : d.Selects := by
  induction h with
  | empty limit => exact (empty_sound limit).selects
  | ofComponents components limit => exact ofComponents_selects components limit
  | perform operation _ ih => exact perform_selects ih operation

/-- The document after some operations. -/
def after (d : Document) : List Operation → Document
  | [] => d
  | operation :: rest => (d.perform operation).after rest

theorem after_append (before later : List Operation) : ∀ d : Document,
    d.after (before ++ later) = (d.after before).after later := by
  induction before with
  | nil => exact fun _ => rfl
  | cons operation rest ih => exact fun d => ih (d.perform operation)

theorem Distinct.after (operations : List Operation) : ∀ {d : Document}, d.Distinct →
    (d.after operations).Distinct := by
  induction operations with
  | nil => exact fun h => h
  | cons operation rest ih => exact fun h => ih (perform_distinct h operation)

/-- The id of the component whose data an operation changes. -/
def Operation.writes? : Operation → Option Nat
  | .patch id _ _ | .append id _ _ | .appendDefault id _ | .removeItem id _ _
  | .setColumnCount id _ => some id
  | _ => none

/-- No addition among the operations finds that the next id is the last word. -/
def Lasting (d : Document) : List Operation → Prop
  | [] => True
  | operation :: rest =>
      (operation.adds = true → d.nextId ≠ maxWord) ∧ (d.perform operation).Lasting rest

theorem lasting_append {before later : List Operation} : ∀ {d : Document},
    d.Lasting (before ++ later) → d.Lasting before ∧ (d.after before).Lasting later := by
  induction before with
  | nil => exact fun h => ⟨trivial, h⟩
  | cons operation rest ih => exact fun h => ⟨⟨h.1, (ih h.2).1⟩, (ih h.2).2⟩

/-! ## Where components come from -/

/-- The position of the pair that a move exchanges. -/
def exchange? (d : Document) (id : Nat) (direction : Direction) : Option Nat :=
  (position? id d.components).bind fun index =>
    swapPosition? direction index d.components.length

/-- Where the component at position `j` stood before an operation; `none` if it was not there. -/
def origin? (d : Document) (operation : Operation) (j : Nat) : Option Nat :=
  match operation with
  | .add _ => if j < d.components.length then some j else none
  | .move id direction =>
      match d.exchange? id direction with
      | some k => some (exchanged k j)
      | none => some j
  | .remove id =>
      match position? id d.components with
      | some k => some (if j < k then j else j + 1)
      | none => some j
  | _ => some j

/-- Where the component at position `j` stood before some operations; `none` if it was not there. -/
def source? (d : Document) (operations : List Operation) (j : Nat) : Option Nat :=
  match operations with
  | [] => some j
  | operation :: rest => ((d.perform operation).source? rest j).bind (d.origin? operation)

/-- What a component is, seen from an earlier document: one that stood at a position there, with the
same id, the same kind and, unless its data was `written`, the same data; or one that was added. -/
inductive Traced (d : Document) (written : Nat → Prop) (c' : Component) : Option Nat → Prop where
  | kept {i : Nat} {c : Component} :
      d.components[i]? = some c → c'.id = c.id → c'.typeName = c.typeName →
      (¬ written c.id → c' = c) → Traced d written c' (some i)
  | added : d.nextId ≤ c'.id → Traced d written c' none

variable {d : Document} {operation : Operation} {operations : List Operation} {j : Nat}
  {c' : Component}

theorem Traced.of_eq {written : Nat → Prop} {i : Nat} (h : d.components[i]? = some c') :
    Traced d written c' (some i) :=
  .kept h rfl rfl fun _ => rfl

theorem lt_of_exchange? {id : Nat} {direction : Direction} {k : Nat}
    (h : d.exchange? id direction = some k) : k + 1 < d.components.length := by
  obtain ⟨index, hindex, hk⟩ := Option.bind_eq_some_iff.mp h
  have hlt := lt_of_position? hindex
  cases direction with
  | up =>
      rw [swapPosition?] at hk
      split at hk
      · cases hk
        omega
      · cases hk
  | down =>
      rw [swapPosition?] at hk
      split at hk
      · cases hk
        assumption
      · cases hk

theorem components_move (d : Document) (id : Nat) (direction : Direction) :
    (d.move id direction).2.components =
      match d.exchange? id direction with
      | some k => swapAt k d.components
      | none => d.components := by
  rw [move, ← exchange?]
  cases d.exchange? id direction <;> rfl

theorem components_remove (d : Document) (id : Nat) :
    (d.remove id).2.components =
      match position? id d.components with
      | some k => d.components.eraseIdx k
      | none => d.components := by
  have hmissing : d.get? id = none ↔ position? id d.components = none := by simp [get?, position?]
  cases hpos : position? id d.components with
  | none => rw [remove, hmissing.mpr hpos]
  | some k =>
      cases hc : d.get? id with
      | none => rw [hmissing.mp hc] at hpos; cases hpos
      | some c =>
          rw [position?] at hpos
          rw [remove, hc]
          simp only [List.eraseP_eq_eraseIdx, hpos]

theorem Writes.traced {α : Type} {id : Nat} {change : Object → α → Object → Prop}
    {r : Except Error α × Document} (hw : Writes d id change r)
    (h : r.2.components[j]? = some c') : Traced d (some id = some ·) c' (some j) := by
  cases hw with
  | failed _ => exact .of_eq h
  | written _ _ =>
      rw [withData, getElem?_replaceData] at h
      obtain ⟨c, hc, rfl⟩ := Option.map_eq_some_iff.mp h
      split
      next hpos =>
        obtain ⟨found, hfound, hid⟩ := getElem?_of_position? hpos
        rw [hc] at hfound
        cases hfound
        exact .kept hc rfl rfl fun hnot => absurd (congrArg some hid.symm) hnot
      next => exact .of_eq hc

/-- The next id is never lowered, except by an addition that numbers anew. -/
theorem nextId_le_perform (hadd : operation.adds = true → d.nextId ≠ maxWord) :
    d.nextId ≤ (d.perform operation).nextId := by
  cases hadds : operation.adds with
  | false => exact Nat.le_of_eq (nextId_perform hadds).symm
  | true =>
      cases operation with
      | add typeName =>
          obtain ⟨e, he⟩ | ⟨kind, _, _, numbered, hnumbered, hcase⟩ := d.add_cases typeName
          · have hsame : d.perform (.add typeName) = d := by rw [perform, he]
            exact Nat.le_of_eq (congrArg nextId hsame).symm
          · rw [if_neg (hadd hadds)] at hnumbered
            rw [perform, hcase, hnumbered]
            exact Nat.le_succ _
      | _ => cases hadds

/-- Each component that an operation leaves is one that was there, or has the next id. -/
theorem traced_perform (hadd : operation.adds = true → d.nextId ≠ maxWord)
    (h : (d.perform operation).components[j]? = some c') :
    Traced d (operation.writes? = some ·) c' (d.origin? operation j) := by
  cases operation with
  | add typeName =>
      obtain ⟨e, he⟩ | ⟨kind, _, _, numbered, hnumbered, hcase⟩ := d.add_cases typeName
      · rw [perform, he] at h
        have hlt := (List.getElem?_eq_some_iff.mp h).1
        rw [origin?, if_pos hlt]
        exact .of_eq h
      · rw [if_neg (hadd rfl)] at hnumbered
        subst hnumbered
        rw [perform, hcase] at h
        by_cases hlt : j < numbered.components.length
        · rw [List.getElem?_append_left hlt] at h
          rw [origin?, if_pos hlt]
          exact .of_eq h
        · rw [List.getElem?_append_right (Nat.le_of_not_lt hlt), List.getElem?_singleton] at h
          rw [origin?, if_neg hlt]
          split at h
          · cases h
            exact .added (Nat.le_refl _)
          · cases h
  | move id direction =>
      rw [perform, components_move] at h
      cases hk : d.exchange? id direction with
      | some k =>
          rw [hk] at h
          rw [origin?, hk]
          rw [getElem?_swapAt k _ (lt_of_exchange? hk)] at h
          exact .of_eq h
      | none =>
          rw [hk] at h
          rw [origin?, hk]
          exact .of_eq h
  | remove id =>
      rw [perform, components_remove] at h
      cases hk : position? id d.components with
      | some k =>
          rw [hk] at h
          rw [origin?, hk]
          rw [List.getElem?_eraseIdx, ← apply_ite (d.components[·]?)] at h
          exact .of_eq h
      | none =>
          rw [hk] at h
          rw [origin?, hk]
          exact .of_eq h
  | clear => cases h
  | setLimit limit => exact .of_eq h
  | select id =>
      rw [perform, components_select] at h
      exact .of_eq h
  | patch id path value => exact (d.patch_writes id path value).traced h
  | append id list item => exact (d.append_writes id list item).traced h
  | appendDefault id list => exact (d.appendDefault_writes id list).traced h
  | removeItem id list index => exact (d.removeItem_writes id list index).traced h
  | setColumnCount id count => exact (d.setColumnCount_writes id count).traced h

/-! ## Over a run -/

theorem nextId_le_after : ∀ {operations : List Operation} {d : Document}, d.Lasting operations →
    d.nextId ≤ (d.after operations).nextId := by
  intro operations
  induction operations with
  | nil => exact fun _ => Nat.le_refl _
  | cons operation rest ih =>
      exact fun h => Nat.le_trans (nextId_le_perform h.1) (ih h.2)

/-- Each component that a run leaves is one that was there at its start, or has an id that was
free then. -/
theorem traced_after : ∀ {operations : List Operation} {d : Document}, d.Lasting operations →
    (d.after operations).components[j]? = some c' →
    Traced d (fun id => ∃ operation ∈ operations, operation.writes? = some id) c'
      (d.source? operations j) := by
  intro operations
  induction operations with
  | nil => exact fun _ h => .of_eq h
  | cons operation rest ih =>
      intro d hlasting h
      have hrest := ih hlasting.2 h
      rw [source?]
      generalize (d.perform operation).source? rest j = source at hrest
      cases hrest with
      | added hnew => exact .added (Nat.le_trans (nextId_le_perform hlasting.1) hnew)
      | @kept i c hc hid htype hdata =>
          have hfirst := traced_perform hlasting.1 hc
          show Traced d _ c' (d.origin? operation i)
          generalize d.origin? operation i = origin at hfirst
          cases hfirst with
          | added hnew => exact .added (hid ▸ hnew)
          | @kept i₀ c₀ hc₀ hid₀ htype₀ hdata₀ =>
              refine .kept hc₀ (hid.trans hid₀) (htype.trans htype₀) fun hnot => ?_
              have hsame : c = c₀ := hdata₀ fun hw => hnot ⟨operation, List.mem_cons_self, hw⟩
              have hsame' : c' = c := hdata fun ⟨later, hlater, hw⟩ =>
                hnot ⟨later, List.mem_cons_of_mem _ hlater, hsame ▸ hw⟩
              exact hsame'.trans hsame

/-- An id that is in use before and after a run is that of one and the same component. -/
theorem source?_of_id_eq (hdistinct : d.Distinct) (hlasting : d.Lasting operations) {i : Nat}
    {c : Component} (hc : d.components[i]? = some c)
    (hc' : (d.after operations).components[j]? = some c') (hid : c'.id = c.id) :
    d.source? operations j = some i := by
  have htraced := traced_after hlasting hc'
  generalize d.source? operations j = source at htraced
  cases htraced with
  | added hnew =>
      have hlt := hdistinct.fresh c.id (List.mem_map_of_mem (List.mem_of_getElem? hc))
      omega
  | @kept k c₀ hc₀ hid₀ _ _ =>
      have hi := position?_of_getElem? hdistinct.unique hc
      have hk := position?_of_getElem? hdistinct.unique hc₀
      rw [← hid₀, hid, hi] at hk
      exact hk.symm

/-- The id that an addition gives out was never in use during the run. -/
theorem not_mem_ids_of_add (hdistinct : d.Distinct) {before later : List Operation}
    (hlasting : d.Lasting (before ++ later)) (hnext : (d.after (before ++ later)).nextId ≠ maxWord)
    {typeName : String} {id : Nat} {added : Document}
    (hadd : (d.after (before ++ later)).add typeName = (.ok id, added)) :
    id ∉ (d.after before).ids := by
  have hid := id_of_add hadd
  rw [if_neg hnext] at hid
  intro hmem
  have hlt := (Distinct.after before hdistinct).fresh id hmem
  have hle := nextId_le_after (lasting_append hlasting).2
  rw [← after_append, ← hid] at hle
  omega

/-! ## Numbering anew -/

/-- `added` has the components of `d`, numbered in their order and otherwise as they were, and after
them a new one, which has `id`.  The selection is on the same component as before. -/
structure NumberedAnew (d : Document) (typeName : String) (id : Nat) (added : Document) : Prop where
  id_eq : id = d.components.length + 1
  length_eq : added.components.length = d.components.length + 1
  kept : ∀ i (c : Component), d.components[i]? = some c →
    added.components[i]? = some { c with id := i + 1 }
  new : ∃ kind, Kind.ofName? typeName = some kind ∧
    added.components[d.components.length]? = some ⟨id, kind.name, kind.template⟩
  selects : ∀ n, added.selected = some n ↔
    ∃ i c, d.components[i]? = some c ∧ d.selected = some c.id ∧ n = i + 1

/-- An addition that finds the last word as the next id numbers all components anew. -/
theorem add_of_last (hdistinct : d.Distinct) (hlast : d.nextId = maxWord) {typeName : String}
    {id : Nat} {added : Document} (hadd : d.add typeName = (.ok id, added)) :
    NumberedAnew d typeName id added := by
  obtain ⟨e, he⟩ | ⟨kind, hkind, _, numbered, hnumbered, hcase⟩ := d.add_cases typeName
  · rw [he] at hadd
    cases hadd
  · rw [if_pos hlast] at hnumbered
    subst hnumbered
    rw [hcase] at hadd
    cases hadd
    refine ⟨rfl, by simp, ?_, ⟨kind, hkind, by simp⟩, ?_⟩
    · intro i c hc
      have hlt := (List.getElem?_eq_some_iff.mp hc).1
      rw [List.getElem?_append_left (by simpa using hlt), renumber, getElem?_numberFrom, hc,
        Nat.add_comm]
      rfl
    · intro n
      simp only [renumber, Option.map_eq_some_iff, Option.bind_eq_some_iff]
      constructor
      · rintro ⟨i, ⟨id, hselected, hi⟩, rfl⟩
        obtain ⟨c, hc, rfl⟩ := getElem?_of_position? hi
        exact ⟨i, c, hc, hselected, rfl⟩
      · rintro ⟨i, c, hc, hselected, rfl⟩
        exact ⟨i, ⟨c.id, hselected, position?_of_getElem? hdistinct.unique hc⟩, rfl⟩

/-! ## Ids for life -/

/-- Any operations on any document, of which no addition finds the last word as the next id.  Each
component that is left is one of the start, with the same id and the same kind, or was added with an
id that was free at the start; and an id of the start names the same component at the end.  If
then a component is added, its id was not in use at any time before, unless the next id is the last
word by now; in that case all components are numbered anew. -/
theorem lifetime_of_ids (harises : Arises d) (hlasting : d.Lasting operations) :
    (∀ j c', (d.after operations).components[j]? = some c' →
      Traced d (fun id => ∃ operation ∈ operations, operation.writes? = some id) c'
        (d.source? operations j)) ∧
    (∀ i c j c', d.components[i]? = some c → (d.after operations).components[j]? = some c' →
      c'.id = c.id → d.source? operations j = some i) ∧
    ∀ typeName id added, (d.after operations).add typeName = (.ok id, added) →
      ((d.after operations).nextId ≠ maxWord → ∀ before later, operations = before ++ later →
        id ∉ (d.after before).ids) ∧
      ((d.after operations).nextId = maxWord →
        NumberedAnew (d.after operations) typeName id added) := by
  have hdistinct := harises.distinct
  refine ⟨fun j c' h => traced_after hlasting h, ?_, ?_⟩
  · intro i c j c' hc hc' hid
    exact source?_of_id_eq hdistinct hlasting hc hc' hid
  · intro typeName id added hadd
    refine ⟨?_, fun hlast => add_of_last (Distinct.after operations hdistinct) hlast hadd⟩
    rintro hnext before later rfl
    exact not_mem_ids_of_add hdistinct hlasting hnext hadd

/-- A page loaded with one id twice, near the last word. -/
def aging : Document := ofComponents [⟨maxWord - 3, "hero", []⟩, ⟨maxWord - 3, "text", []⟩] 10

/-- The second component is removed and another one added, moved to the front and selected. -/
def agingOperations : List Operation :=
  [.remove (maxWord - 2), .add "cta", .move (maxWord - 1) .up, .select (some (maxWord - 1))]

/-- The id that was removed is not given out again, the component that stays is found behind the
new one, and the next addition makes the ids 1, 2 and 3. -/
theorem lifetime_of_ids_aging :
    Arises aging ∧ aging.Lasting agingOperations ∧
    aging.ids = [maxWord - 3, maxWord - 2] ∧
    (aging.after agingOperations).ids = [maxWord - 1, maxWord - 3] ∧
    aging.source? agingOperations 1 = some 0 ∧
    maxWord - 1 ∉ aging.ids ∧
    NumberedAnew (aging.after agingOperations) "footer" 3
      ((aging.after agingOperations).add "footer").2 ∧
    ((aging.after agingOperations).add "footer").2.selected = some 1 := by
  have harises : Arises aging := .ofComponents _ _
  have hlasting : aging.Lasting agingOperations :=
    ⟨nofun, fun _ => by decide +kernel, nofun, nofun, trivial⟩
  have hids : (aging.after agingOperations).ids = [maxWord - 1, maxWord - 3] := by decide +kernel
  obtain ⟨_, hsource, hadd⟩ := lifetime_of_ids harises hlasting
  have hnumbered := (hadd "footer" 3 _ (Prod.ext (by decide +kernel) rfl)).2 (by decide +kernel)
  obtain ⟨_, _, hfresh⟩ := lifetime_of_ids harises
    (show aging.Lasting [.remove (maxWord - 2)] from ⟨nofun, trivial⟩)
  have hnew := (hfresh "cta" (maxWord - 1) _ (Prod.ext (by decide +kernel) rfl)).1
    (by decide +kernel) [] _ rfl
  refine ⟨harises, hlasting, by decide +kernel, hids, ?_, hnew, hnumbered, ?_⟩
  · exact hsource 0 ⟨maxWord - 3, "hero", []⟩ 1 ⟨maxWord - 3, "hero", []⟩ rfl (by rfl) rfl
  · exact (hnumbered.selects 1).mpr
      ⟨0, ⟨maxWord - 1, "cta", Kind.template .cta⟩, by rfl, by rfl, rfl⟩

end PageBuilder.Document
