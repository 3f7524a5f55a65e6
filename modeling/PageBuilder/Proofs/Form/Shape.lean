import PageBuilder.Proofs.Document.Lists
import PageBuilder.Proofs.Document.Values
import PageBuilder.Proofs.Form.Places

/-!
# Well shaped data

The data of a component is *well shaped* (`Kind.Shaped`) if every list that its form shows is there,
is not empty, and has items of the right kind, and if a columns component has as many columns as it
says.  Templates are well shaped (`Kind.shaped_template`), and each change that a form asks for keeps
the shape: setting a place, appending a new item, removing an item, changing the number of columns.

In well shaped data these changes can be carried out: the places of a form can be set
(`Shaped.exists_set`), and its lists can grow and shrink (`Shaped.append`, `Shaped.removeItem`).
-/

namespace PageBuilder

/-! ## Objects and lists in data -/

/-- Whether a value is an object. -/
def Json.IsObject (v : Json) : Prop := ∃ entries, v = .obj entries

/-- What a name was written into is an object. -/
theorem Json.isObject_write {path key : String} {v item w : Json}
    (h : Json.write path v [.key key] item = .ok w) : w.IsObject := by
  obtain ⟨_, _, _, henter, _, rfl⟩ := Json.write_cons_eq_ok.mp h
  obtain ⟨_, _, hs, _, _, rfl⟩ | ⟨_, _, hs, _⟩ := Json.enter?_cases henter
  · exact ⟨_, rfl⟩
  · cases hs

namespace FieldPath

variable {data : Object} {list : String} {items : List Json}

theorem append_key (h : data.get? list = some (.arr items)) (item : Json) :
    append ⟨list, []⟩ item data =
      .ok (items.length + 1, Object.insert list (.arr (items ++ [item])) data) :=
  (append_of_get? ((get?_key list data).trans h)).mpr ⟨rfl, set_key _ _ _⟩

theorem removeItem_key {index : Nat} (h : data.get? list = some (.arr items))
    (hindex : index < items.length) (hmin : minItems < items.length) :
    removeItem ⟨list, []⟩ index data =
      .ok (items[index], Object.insert list (.arr (items.eraseIdx index)) data) :=
  removeItem_eq_ok_iff.mpr ⟨items, (get?_key list data).trans h,
    List.getElem?_eq_getElem hindex, hmin, set_key _ _ _⟩

end FieldPath

/-! ## Shape -/

namespace Kind

/-- The items of a list: there is at least one, and they are objects unless the kind has items that
are written as a whole. -/
structure ShapedItems (k : Kind) (items : List Json) : Prop where
  ne_nil : items ≠ []
  objects : k.hasWholeItems = false → ∀ item ∈ items, item.IsObject

/-- The data of a component that its form can be used on: its lists are there, and a columns
component has as many columns as it says, from one to four. -/
structure Shaped (k : Kind) (data : Object) : Prop where
  lists : ∀ list ∈ k.itemLists, ∃ items, data.get? list = some (.arr items) ∧ k.ShapedItems items
  columns : k = .columns → ∃ n, data.get? "columnCount" = some (.nat n) ∧
    (data.list "columns").length = n ∧ 1 ≤ n ∧ n ≤ 4

variable {k : Kind} {data after : Object} {list : String} {items : List Json}

/-! ## Templates and new items -/

theorem shaped_template (k : Kind) : k.Shaped k.template := by
  constructor
  · intro list hlist
    cases k
    all_goals simp only [itemLists, lists, List.map, reduceCtorEq, if_false, if_true,
      List.nil_append, List.append_nil, List.mem_singleton, List.not_mem_nil] at hlist
    all_goals
      subst hlist
      refine ⟨_, rfl, List.cons_ne_nil _ _, ?_⟩
      simp [hasWholeItems, Template.record, Json.IsObject]
  · rintro rfl
    exact ⟨2, rfl, rfl, by decide, by decide⟩

/-- Every list of a kind has a new item of the right kind. -/
theorem exists_defaultItem {spec : ListSpec} (h : spec ∈ k.lists) (data : Object) :
    ∃ item, k.defaultItem spec.name data = some item ∧
      (k.hasWholeItems = false → item.IsObject) := by
  cases k
  all_goals simp only [lists, List.mem_singleton, List.not_mem_nil] at h
  all_goals
    subst h
    refine ⟨_, rfl, ?_⟩
    simp [hasWholeItems, Template.record, NewItem.step, NewItem.series, Json.IsObject]

theorem ne_columns_of_mem {spec : ListSpec} (h : spec ∈ k.lists) : k ≠ .columns := by
  rintro rfl
  cases h

/-! ## Setting a place -/

namespace Shaped

/-- Well shaped data stays so with other items of the right kind in one of its lists, as many as
before if they are columns. -/
theorem insert (h : k.Shaped data) (hlist : list ∈ k.itemLists) (hitems : k.ShapedItems items)
    (hlength : k = .columns → items.length = (data.list list).length) :
    k.Shaped (Object.insert list (.arr items) data) := by
  constructor
  · intro other hother
    by_cases he : other = list
    · subst he
      exact ⟨items, Object.get?_insert_self _ _ _, hitems⟩
    · rw [Object.get?_insert_of_ne he]
      exact h.lists other hother
  · rintro rfl
    obtain rfl : list = "columns" := List.mem_singleton.mp hlist
    obtain ⟨n, hcount, hcolumns, hlimits⟩ := h.columns rfl
    refine ⟨n, ?_, ?_, hlimits⟩
    · rw [Object.get?_insert_of_ne (by decide), hcount]
    · rw [Object.list_eq (Object.get?_insert_self _ _ _), hlength rfl, hcolumns]

/-- Setting a place keeps the shape. -/
theorem set (h : k.Shaped data) {p : FieldPath} (hp : k.Place p) {v : Json}
    (hset : p.set v data = .ok after) : k.Shaped after := by
  have hitem : ∀ {list index steps}, list ∈ k.itemLists →
      (∀ path item w, Json.write path v steps item = .ok w → k.hasWholeItems = false →
        w.IsObject) →
      FieldPath.set ⟨list, .index index :: steps⟩ v data = .ok after → k.Shaped after := by
    intro list index steps hlist hwrite hset
    obtain ⟨items, item, w, hget, _, hw, rfl⟩ := FieldPath.set_item_eq_ok.mp hset
    obtain ⟨found, hfound, hitems⟩ := h.lists list hlist
    cases hget.symm.trans hfound
    refine h.insert hlist ⟨?_, ?_⟩ ?_
    · simpa using hitems.ne_nil
    · intro hwhole x hx
      rcases List.mem_or_eq_of_mem_set hx with hold | rfl
      · exact hitems.objects hwhole x hold
      · exact hwrite _ item x hw hwhole
    · rw [Object.list_eq hget]
      simp
  cases hp with
  | @own key hkey hown hcount =>
      have hget : ∀ other, key ≠ other → after.get? other = data.get? other :=
        fun other hne => FieldPath.get?_key_set hne hset
      constructor
      · intro list hlist
        rw [hget list fun he => hown (he ▸ hlist)]
        exact h.lists list hlist
      · intro hk
        have hcolumns : key ≠ "columns" := fun he => hown (he ▸ columns_mem_itemLists hk)
        rw [Object.list, hget _ hcount, hget _ hcolumns]
        exact h.columns hk
  | field hlist hwhole => exact hitem hlist (fun _ _ _ hw _ => Json.isObject_write hw) hset
  | whole hlist hwhole =>
      refine hitem hlist (fun _ _ _ _ hfalse => ?_) hset
      rw [hwhole] at hfalse
      cases hfalse

/-- The place of an entry of the form can be set. -/
theorem exists_set (h : k.Shaped data) {s : Scope} {e : Entry} (hfills : k.Fills data s e)
    {p : FieldPath} (hp : s.place? e.target = some p) (hplace : k.Place p) (v : Json) :
    ∃ after, p.set v data = .ok after := by
  cases hfills with
  | own _ =>
      cases htarget : e.target
      all_goals
        rw [htarget] at hp
        cases hp
      exact ⟨_, FieldPath.set_key _ _ _⟩
  | item hlist hvalue _ =>
      obtain ⟨items, hget, hitems⟩ := h.lists _ hlist
      rw [Object.list_eq hget] at hvalue
      cases htarget : e.target with
      | field key =>
          rw [htarget] at hp
          cases hp
          cases hplace with
          | field _ hwhole _ =>
              obtain ⟨entries, rfl⟩ := hitems.objects hwhole _ (List.mem_of_getElem? hvalue)
              have hwrite : ∀ path, Json.write path v [.key key] (.obj entries) =
                  .ok (.obj (Object.insert key v entries)) := fun _ => rfl
              exact ⟨_, FieldPath.set_item_eq_ok.mpr ⟨items, _, _, hget, hvalue, hwrite _, rfl⟩⟩
      | whole =>
          rw [htarget] at hp
          cases hp
          exact ⟨_, FieldPath.set_item_eq_ok.mpr ⟨items, _, v, hget, hvalue, rfl, rfl⟩⟩
      | columnCount =>
          rw [htarget] at hp
          cases hp

/-! ## Lists that grow and shrink -/

/-- A list of well shaped data takes a new item. -/
theorem append (h : k.Shaped data) {spec : ListSpec} (hspec : spec ∈ k.lists) {item : Json}
    (hitem : k.hasWholeItems = false → item.IsObject) :
    ∃ n after, FieldPath.append ⟨spec.name, []⟩ item data = .ok (n, after) ∧ k.Shaped after := by
  have hlist := mem_itemLists_of_mem hspec
  obtain ⟨items, hget, hitems⟩ := h.lists _ hlist
  refine ⟨_, _, FieldPath.append_key hget item, h.insert hlist ⟨by simp, fun hwhole x hx => ?_⟩
    fun hk => absurd hk (ne_columns_of_mem hspec)⟩
  rcases List.mem_append.mp hx with hold | hnew
  · exact hitems.objects hwhole x hold
  · exact List.mem_singleton.mp hnew ▸ hitem hwhole

/-- A list of well shaped data that is longer than it must be can lose any item. -/
theorem removeItem (h : k.Shaped data) {spec : ListSpec} (hspec : spec ∈ k.lists) {index : Nat}
    (hindex : index < (data.list spec.name).length)
    (hmin : minItems < (data.list spec.name).length) :
    ∃ item after, FieldPath.removeItem ⟨spec.name, []⟩ index data = .ok (item, after) ∧
      k.Shaped after := by
  have hlist := mem_itemLists_of_mem hspec
  obtain ⟨items, hget, hitems⟩ := h.lists _ hlist
  rw [Object.list_eq hget] at hindex hmin
  refine ⟨_, _, FieldPath.removeItem_key hget hindex hmin, h.insert hlist
    ⟨?_, fun hwhole x hx => ?_⟩ fun hk => absurd hk (ne_columns_of_mem hspec)⟩
  · refine List.ne_nil_of_length_pos ?_
    rw [List.length_eraseIdx_of_lt hindex]
    exact Nat.sub_pos_of_lt hmin
  · exact hitems.objects hwhole x (List.mem_of_mem_eraseIdx hx)

/-! ## Columns -/

/-- A columns component may get any number of columns within the limits. -/
theorem withColumns (h : Kind.Shaped .columns data) {count : Nat} (hlow : 1 ≤ count)
    (hhigh : count ≤ 4) : Kind.Shaped .columns (withColumns count data) := by
  have hcolumns := get?_withColumns count data
  have hlength : (resize count newColumn (data.list "columns")).length = count :=
    length_resize count newColumn _
  constructor
  · intro list hlist
    obtain rfl : list = "columns" := List.mem_singleton.mp hlist
    refine ⟨_, hcolumns, ?_, fun hwhole x hx => ?_⟩
    · exact List.ne_nil_of_length_pos (by omega)
    · obtain ⟨items, hget, hitems⟩ := h.lists _ hlist
      rcases mem_resize hx with hold | rfl
      · exact hitems.objects hwhole x (Object.list_eq hget ▸ hold)
      · exact ⟨_, rfl⟩
  · rintro -
    refine ⟨count, Object.get?_insert_self _ _ _, ?_, hlow, hhigh⟩
    rw [Object.list_eq hcolumns, hlength]

end Shaped

end Kind

end PageBuilder
