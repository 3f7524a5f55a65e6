import PageBuilder.Form.CommaList
import PageBuilder.Proofs.Catalog.Values
import PageBuilder.Proofs.Document.Identity

/-!
# Data stays storable

An operation that is given storable values keeps the data of every component storable
(`perform_storable`), since it writes nothing else but values of the catalog.
-/

namespace PageBuilder

open Json (Storable storable_null storable_str storable_nat storable_arr)

/-! ## Writing into data -/

namespace FieldPath

variable {p : FieldPath} {data after : Object}

theorem set_storable {value : Json} (hv : value.Storable) (hd : Storable (.obj data))
    (h : p.set value data = .ok after) : Storable (.obj after) := by
  unfold set at h
  split at h
  next v hwrite =>
    cases h
    exact (Storable.write hv p.segments hd hwrite).entries
  next => cases h

theorem focusList_storable {items : List Json} {put : List Json → Object}
    (hd : Storable (.obj data)) (h : p.focusList data = .ok (items, put)) :
    (∀ v ∈ items, v.Storable) ∧
      ∀ others, (∀ v ∈ others, v.Storable) → Storable (.obj (put others)) := by
  unfold focusList at h
  split at h
  next items' put' hfocus =>
    cases h
    obtain ⟨⟨inner, write⟩, hinner, he⟩ := Option.map_eq_some_iff.mp hfocus
    cases he
    obtain ⟨hitems, hput⟩ := Storable.focus? p.segments hd hinner
    exact ⟨storable_arr.mp hitems, fun others hothers =>
      (hput (.arr others) (storable_arr.mpr hothers)).entries⟩
  next => cases h

theorem append_storable {item : Json} {n : Nat} (hitem : item.Storable) (hd : Storable (.obj data))
    (h : p.append item data = .ok (n, after)) : Storable (.obj after) := by
  have hlist : ∀ start : Object, Storable (.obj start) →
      (p.focusList start >>= fun found =>
        .ok (found.1.length + 1, found.2 (found.1 ++ [item]))) = .ok (n, after) →
      Storable (.obj after) := by
    intro start hs h
    obtain ⟨⟨items, put⟩, hfocus, h⟩ := bind_eq_ok h
    cases h
    obtain ⟨hitems, hput⟩ := focusList_storable hs hfocus
    refine hput _ fun v hv => ?_
    rcases List.mem_append.mp hv with hold | hnew
    · exact hitems v hold
    · exact List.mem_singleton.mp hnew ▸ hitem
  unfold append at h
  simp only at h
  split at h
  · -- Nothing was there: an empty list is written first.
    obtain ⟨start, hstart, h⟩ := bind_eq_ok h
    exact hlist start (set_storable (storable_arr.mpr (List.forall_mem_nil _)) hd hstart) h
  · exact hlist data hd h

theorem removeItem_storable {index : Nat} {item : Json} (hd : Storable (.obj data))
    (h : p.removeItem index data = .ok (item, after)) : Storable (.obj after) := by
  unfold removeItem at h
  obtain ⟨⟨items, put⟩, hfocus, h⟩ := bind_eq_ok h
  obtain ⟨hitems, hput⟩ := focusList_storable hd hfocus
  simp only at h
  split at h
  · cases h
  · split at h
    · cases h
    · cases h
      exact hput _ fun v hv => hitems v (List.mem_of_mem_eraseIdx hv)

end FieldPath

theorem mem_resize {α : Type} {count : Nat} {item x : α} {items : List α}
    (h : x ∈ resize count item items) : x ∈ items ∨ x = item := by
  rcases List.mem_append.mp h with hold | hnew
  · exact Or.inl (List.mem_of_mem_take hold)
  · exact Or.inr (List.eq_of_mem_replicate hnew)

theorem length_resize {α : Type} (count : Nat) (item : α) (items : List α) :
    (resize count item items).length = count := by
  simp [resize]
  omega

/-- The items that are left after a list was resized are those that were there. -/
theorem getElem?_resize {α : Type} {count index : Nat} {items : List α} (hcount : index < count)
    (hlength : index < items.length) (item : α) :
    (resize count item items)[index]? = items[index]? := by
  rw [resize, List.getElem?_append_left (by simp; omega), List.getElem?_take_of_lt hcount]

theorem get?_withColumns (count : Nat) (data : Object) :
    (withColumns count data).get? "columns" =
      some (.arr (resize count newColumn (data.list "columns"))) := by
  rw [withColumns, Object.get?_insert_of_ne (by decide), Object.get?_insert_self]

theorem withColumns_storable {count : Nat} {data : Object} (hcount : isColumnCount count)
    (hd : Storable (.obj data)) : Storable (.obj (withColumns count data)) := by
  have hword : count ≤ maxWord := by
    have hle := (Document.isColumnCount_iff.mp hcount).2
    exact le_trans hle (by decide)
  have hlist : ∀ v ∈ data.list "columns", v.Storable := by
    unfold Object.list
    cases hget : data.get? "columns" with
    | none => exact List.forall_mem_nil _
    | some v => exact (hd.get? hget).items
  have hcolumns : Storable (.arr (resize count newColumn (data.list "columns"))) := by
    refine storable_arr.mpr fun v hv => ?_
    rcases mem_resize hv with hold | hnew
    · exact hlist v hold
    · exact hnew ▸ Storable.single (storable_str _)
  exact (hd.insert "columns" hcolumns).insert "columnCount" (storable_nat.mpr hword)

/-- What a comma list is stored as is storable. -/
theorem CommaList.storable_stored (raw : String) (numeric : Bool) :
    (stored raw numeric).Storable := by
  refine storable_arr.mpr fun v hv => ?_
  cases numeric with
  | true =>
      obtain ⟨x, _, rfl⟩ := List.mem_map.mp hv
      unfold storedNumber
      split
      · have hlow := x.toInt64.le_toInt
        have hhigh := x.toInt64.toInt_le
        refine Json.storable_num.mpr ⟨hlow, le_trans hhigh ?_⟩
        decide
      · exact Json.storable_num.mpr trivial
  | false =>
      obtain ⟨s, _, rfl⟩ := List.mem_map.mp hv
      exact storable_str s

/-! ## Operations -/

namespace Document

/-- The data of every component is storable. -/
def Storable (d : Document) : Prop := ∀ c ∈ d.components, (Json.obj c.data).Storable

/-- The values that an operation is given are storable. -/
def Operation.Storable : Operation → Prop
  | .patch _ _ value => value.Storable
  | .append _ _ item => item.Storable
  | _ => True

variable {d : Document}

theorem Writes.storable {α : Type} {id : Nat} {change : Object → α → Object → Prop}
    {r : Except Error α × Document} (hw : Writes d id change r) (h : d.Storable)
    (hchange : ∀ before a after, change before a after → (Json.obj before).Storable →
      (Json.obj after).Storable) : r.2.Storable := by
  cases hw with
  | failed e => exact h
  | written hc hdata =>
      intro x hx
      rcases mem_replaceData hx with hold | hnew
      · exact h x hold
      · obtain ⟨_, _, _, rfl⟩ := hnew
        exact hchange _ _ _ hdata (h _ (mem_of_get? hc).1)

theorem mem_numberFrom {x : Component} {cs : List Component} : ∀ {n : Nat}, x ∈ numberFrom n cs →
    ∃ c ∈ cs, x.data = c.data := by
  induction cs with
  | nil => exact fun h => by cases h
  | cons c rest ih =>
      intro n h
      rcases List.mem_cons.mp h with he | hr
      · exact ⟨c, List.mem_cons_self, by rw [he]⟩
      · obtain ⟨old, hold, hdata⟩ := ih hr
        exact ⟨old, List.mem_cons_of_mem c hold, hdata⟩

theorem mem_separate {x : Component} {cs : List Component} : ∀ {free : Nat} {seen : List Nat},
    x ∈ (separate free seen cs).1 → ∃ c ∈ cs, x.data = c.data := by
  induction cs with
  | nil => exact fun h => by cases h
  | cons c rest ih =>
      intro free seen h
      rw [separate] at h
      split at h
      all_goals
        rcases List.mem_cons.mp h with he | hr
        · exact ⟨c, List.mem_cons_self, by rw [he]⟩
        · obtain ⟨old, hold, hdata⟩ := ih hr
          exact ⟨old, List.mem_cons_of_mem c hold, hdata⟩

/-- Loading may give ids anew, and leaves the data. -/
theorem ofComponents_storable {cs : List Component} (limit : Nat)
    (h : ∀ c ∈ cs, (Json.obj c.data).Storable) : (ofComponents cs limit).Storable := by
  intro x hx
  have hdata : ∃ c ∈ cs, x.data = c.data := by
    unfold ofComponents at hx
    simp only at hx
    split at hx
    · exact mem_numberFrom hx
    · exact mem_separate hx
  obtain ⟨c, hc, he⟩ := hdata
  exact he ▸ h c hc

theorem Storable.renumber (h : d.Storable) : d.renumber.Storable := by
  intro x hx
  obtain ⟨c, hc, hdata⟩ := mem_numberFrom hx
  exact hdata ▸ h c hc

theorem Storable.add (h : d.Storable) (typeName : String) : (d.add typeName).2.Storable := by
  obtain ⟨e, he⟩ | ⟨kind, _, _, numbered, hnumbered, hadd⟩ := d.add_cases typeName
  · rw [he]
    exact h
  · have hstorable : numbered.Storable := by
      rw [hnumbered]
      split
      · exact h.renumber
      · exact h
    rw [hadd]
    intro x hx
    rcases List.mem_append.mp hx with hold | hnew
    · exact hstorable x hold
    · exact List.mem_singleton.mp hnew ▸ kind.storable_template

/-- Whatever components are left of those that were there have the data that they had. -/
theorem Storable.of_subset {d' : Document} (h : d.Storable)
    (hsub : ∀ c ∈ d'.components, c ∈ d.components) : d'.Storable :=
  fun c hc => h c (hsub c hc)

/-- An operation with storable values keeps the data of every component storable. -/
theorem perform_storable (h : d.Storable) {operation : Operation} (hop : operation.Storable) :
    (d.perform operation).Storable := by
  cases operation with
  | add typeName => exact h.add typeName
  | move id direction =>
      obtain hm | ⟨index, hm⟩ := d.move_cases id direction
      all_goals rw [perform, hm]
      · exact h
      · exact h.of_subset fun c hc => (swapAt_perm index d.components).mem_iff.mp hc
  | remove id =>
      obtain hr | ⟨c, _, hr⟩ := d.remove_cases id
      all_goals rw [perform, hr]
      · exact h
      · exact h.of_subset fun c hc => List.mem_of_mem_eraseP hc
  | clear => exact List.forall_mem_nil _
  | select id =>
      exact h.of_subset fun c hc => components_select d id ▸ hc
  | setLimit limit => exact h
  | patch id path value =>
      exact (d.patch_writes id path value).storable h fun _ _ _ hchange hbefore =>
        FieldPath.set_storable hop hbefore hchange.choose_spec.2
  | append id list item =>
      exact (d.append_writes id list item).storable h fun _ _ _ hchange hbefore =>
        FieldPath.append_storable hop hbefore hchange.choose_spec.2
  | appendDefault id list =>
      refine (d.appendDefault_writes id list).storable h ?_
      rintro before n after ⟨p, kind, item, _, hitem, happend⟩ hbefore
      exact FieldPath.append_storable (Kind.storable_defaultItem hitem) hbefore happend
  | removeItem id list index =>
      exact (d.removeItem_writes id list index).storable h fun _ _ _ hchange hbefore =>
        FieldPath.removeItem_storable hbefore hchange.choose_spec.2
  | setColumnCount id count =>
      refine (d.setColumnCount_writes id count).storable h ?_
      rintro before n after ⟨hcount, rfl⟩ hbefore
      exact withColumns_storable hcount hbefore

end Document

end PageBuilder
