import Mathlib.Data.List.InsertIdx
import PageBuilder.Proofs.Form.Editing

/-!
# The buttons of a section

A section offers to remove each of its items, if there are others, and to add one.  It counts the
items with a reader that takes whatever is no list for an empty one, while the document looks for a
list at the path.  The two agree, as items are only read from lists
(`Object.get?_of_list_ne_nil`).

A list that a section is made of is stored under a name that no field of the component has
(`Entry.own_target`), so with other items in it the form is as before in all but that section
(`Form.of_insert`).  What an item shows does not depend on its position, and its index, labels and
bindings do not depend on what it shows; hence the items that are left after a removal show what
they showed, and are numbered as before.  `Form.buttons_exact` puts this together.
-/

namespace PageBuilder

/-! ## Lists under a name -/

theorem FieldPath.itemsAt_key (key : String) (data : Object) :
    FieldPath.itemsAt ⟨key, []⟩ data = data.list key := by
  rw [itemsAt, get?_key, Object.list]

/-- Items are only read from lists. -/
theorem Object.get?_of_list_ne_nil {data : Object} {list : String} (h : data.list list ≠ []) :
    data.get? list = some (.arr (data.list list)) := by
  unfold Object.list at h ⊢
  cases hv : data.get? list with
  | none => simp [hv] at h
  | some v =>
      cases v with
      | arr items => rfl
      | _ => simp [hv, Json.items] at h

/-! ## Items of a section -/

/-- What a field shows, and with which control. -/
def Field.display (f : Field) : Control × Json := (f.control, f.value)

namespace FormItem

/-- What the fields of an item show. -/
def display (item : FormItem) : List (Control × Json) := item.fields.map Field.display

/-- The item without its values: its index, and the labels, bindings and controls of its fields. -/
def frame (item : FormItem) : Nat × List Field := (item.index, item.fields.map Field.frame)

/-- The item without what tells whether it may be removed. -/
def content (item : FormItem) : Nat × List Field := (item.index, item.fields)

end FormItem

section

variable {k : Kind} {data after : Object} {spec : ListSpec}

/-- What an item shows is read from the item alone. -/
theorem Kind.display_itemFields (k : Kind) (list : String) (index : Nat) (value : Json) :
    (k.itemFields list index value).map Field.display =
      (k.itemFields "" 0 value).map Field.display := by
  -- At every position the layout has the same targets and controls, and only these matter here.
  have huse : ∀ list index, (k.itemFields list index value).map Field.display =
      ((Form.itemEntries k index).map Entry.use).map fun u =>
        (u.2, u.2.shown ((Scope.item "" 0 value).value u.1)) := by
    intro list index
    rw [itemFields, List.map_map, List.map_map]
    refine List.map_congr_left fun e _ => ?_
    cases htarget : e.target <;> simp [Entry.field, Entry.use, Field.display, htarget] <;> rfl
  rw [huse, huse, map_use_itemEntries]

/-- The frame of an item does not depend on what it shows. -/
theorem Kind.frame_itemFields (k : Kind) (list : String) (index : Nat) (value : Json) :
    (k.itemFields list index value).map Field.frame =
      (k.itemFields list index .null).map Field.frame := by
  rw [itemFields, itemFields, List.map_map, List.map_map]
  refine List.map_congr_left fun e _ => ?_
  cases htarget : e.target <;> simp [Entry.field, Field.frame, Scope.binding, Scope.path, htarget]

theorem Kind.getElem?_formSection (k : Kind) (data : Object) (spec : ListSpec) (index : Nat) :
    (k.formSection data spec).items[index]? = (data.list spec.name)[index]?.map fun value =>
      ⟨index, k.itemFields spec.name index value, minItems < (data.list spec.name).length⟩ :=
  List.getElem?_mapIdx

@[simp] theorem Kind.spec_formSection (k : Kind) (data : Object) (spec : ListSpec) :
    (k.formSection data spec).spec = spec := rfl

/-- An item can be removed by a button if the list has others. -/
theorem Kind.remove?_formSection {index : Nat} {item : FormItem} {e : Edit}
    (h : (k.formSection data spec).items[index]? = some item) :
    (k.formSection data spec).remove? item = some e ↔
      minItems < (data.list spec.name).length ∧ e = .remove spec.name index := by
  rw [getElem?_formSection] at h
  obtain ⟨value, _, rfl⟩ := Option.map_eq_some_iff.mp h
  simp [Section.remove?, formSection, eq_comm]

@[simp] theorem Kind.length_formSection (k : Kind) (data : Object) (spec : ListSpec) :
    (k.formSection data spec).items.length = (data.list spec.name).length :=
  List.length_mapIdx

theorem Kind.content_formSection (k : Kind) (data : Object) (spec : ListSpec) :
    (k.formSection data spec).items.map FormItem.content =
      (data.list spec.name).mapIdx fun index value =>
        (index, k.itemFields spec.name index value) := by
  refine List.ext_getElem? fun index => ?_
  rw [List.getElem?_map, getElem?_formSection, Option.map_map, List.getElem?_mapIdx]
  rfl

theorem Kind.display_formSection (k : Kind) (data : Object) (spec : ListSpec) :
    (k.formSection data spec).items.map FormItem.display =
      (data.list spec.name).map fun value => (k.itemFields "" 0 value).map Field.display := by
  refine List.ext_getElem? fun index => ?_
  rw [List.getElem?_map, getElem?_formSection, Option.map_map, List.getElem?_map]
  congr 1
  funext value
  exact k.display_itemFields spec.name index value

theorem Kind.frame_formSection (k : Kind) (data : Object) (spec : ListSpec) :
    (k.formSection data spec).items.map FormItem.frame =
      (List.range (data.list spec.name).length).map fun index =>
        (index, (k.itemFields spec.name index .null).map Field.frame) := by
  refine List.ext_getElem (by simp) fun index _ _ => ?_
  simp only [formSection, List.getElem_map, List.getElem_mapIdx, List.getElem_range]
  exact Prod.ext rfl (k.frame_itemFields _ _ _)

/-- With an item less in its list a section has one item less.  The others show what they showed,
in order, and are numbered from the start. -/
theorem Kind.formSection_eraseIdx {index : Nat} (hindex : index < (data.list spec.name).length)
    (h : after.list spec.name = (data.list spec.name).eraseIdx index) :
    (k.formSection after spec).items.length + 1 = (k.formSection data spec).items.length ∧
    (k.formSection after spec).items.map FormItem.display =
      ((k.formSection data spec).items.map FormItem.display).eraseIdx index ∧
    (k.formSection after spec).items.map FormItem.frame =
      ((k.formSection data spec).items.map FormItem.frame).dropLast := by
  have hlength : (after.list spec.name).length + 1 = (data.list spec.name).length := by
    rw [h, List.length_eraseIdx_of_lt hindex]
    omega
  refine ⟨?_, ?_, ?_⟩
  · rw [length_formSection, length_formSection, hlength]
  · rw [display_formSection, display_formSection, h, List.eraseIdx_map]
  · rw [frame_formSection, frame_formSection, ← hlength, ← List.map_dropLast, List.range_succ,
      List.dropLast_concat]

/-- With one more item in its list a section has it at its end, and the others are as before. -/
theorem Kind.formSection_concat {item : Json}
    (h : after.list spec.name = data.list spec.name ++ [item]) :
    (k.formSection after spec).items.map FormItem.content =
      (k.formSection data spec).items.map FormItem.content ++
        [((data.list spec.name).length,
          k.itemFields spec.name (data.list spec.name).length item)] := by
  rw [content_formSection, content_formSection, h, List.mapIdx_concat]

/-! ## Forms with another section -/

/-- The form with another section in place of the one for the same list. -/
def Form.withSection (form : Form) (s : Section) : Form :=
  { form with
    parts := form.parts.map fun
      | .field f => .field f
      | .list old => .list (if old.spec = s.spec then s else old) }

/-- No kind owns two lists. -/
theorem Kind.lists_eq (h : spec ∈ k.lists) : k.lists = [spec] := by
  cases k
  all_goals simp only [lists, List.mem_singleton, List.not_mem_nil] at h
  all_goals
    subst h
    rfl

/-- The fields of a component are not read from its lists. -/
theorem Entry.field_insert (hspec : spec ∈ k.lists) {e : Entry} (he : e ∈ Form.entries k)
    (v : Json) : e.field (.component (Object.insert spec.name v data)) =
      e.field (.component data) := by
  obtain ⟨key, htarget, _, hown, _⟩ | ⟨hk, _⟩ := Entry.own_target he
  · have hne : key ≠ spec.name := fun h => hown (h ▸ mem_itemLists_of_mem hspec)
    simp [Entry.field, htarget, Scope.binding, Scope.path, Scope.value, Scope.fields,
      Object.get?_insert_of_ne hne]
  · exact absurd hk (Kind.ne_columns_of_mem hspec)

/-- With something else stored for the list of a section, the form is as it was but for the
section. -/
theorem Form.of_insert (hspec : spec ∈ k.lists) (id : Nat) (v : Json) :
    Form.of k id (Object.insert spec.name v data) =
      (Form.of k id data).withSection
        (k.formSection (Object.insert spec.name v data) spec) := by
  have hcolumns : ∀ data, k.columnFields data = [] := fun _ =>
    if_neg (Kind.ne_columns_of_mem hspec)
  have hown : (Form.entries k).map (fun e => FormPart.field
        (e.field (.component (Object.insert spec.name v data)))) =
      (Form.entries k).map fun e => FormPart.field (e.field (.component data)) :=
    List.map_congr_left fun e he => congrArg FormPart.field (e.field_insert hspec he v)
  simp only [Form.of, withSection, hcolumns, Kind.lists_eq hspec, List.map_append, List.map_map,
    hown, List.map_cons, List.map_nil, Kind.spec_formSection, if_true]
  rfl

end

/-! ## Edits of a list -/

/-- Whether a document has a component with this form. -/
def Document.Shows (d : Document) (id : Nat) (form : Form) : Prop :=
  ∃ c, d.get? id = some c ∧ Form.of? c = some form

section

variable {k : Kind} {d d' : Document} {id : Nat} {c : Component} {spec : ListSpec}

/-- With something else stored for the list of a section, a document shows the section of that. -/
theorem Document.shows_insert (hc : d.get? id = some c) (hk : c.kind? = some k)
    (hspec : spec ∈ k.lists) (v : Json) :
    (d.withData id (Object.insert spec.name v c.data)).Shows id
        ((Form.of k c.id c.data).withSection
          (k.formSection (Object.insert spec.name v c.data) spec)) ∧
      k.formSection (Object.insert spec.name v c.data) spec ∈
        ((Form.of k c.id c.data).withSection
          (k.formSection (Object.insert spec.name v c.data) spec)).sections := by
  rw [← Form.of_insert hspec, Form.sections_of]
  exact ⟨⟨_, Document.get?_withData hc _, Option.map_eq_some_iff.mpr ⟨k, hk, rfl⟩⟩,
    List.mem_map_of_mem hspec⟩

theorem Edit.withoutResult_eq_ok_iff {α : Type} {r : Except Error α × Document} :
    withoutResult r = (.ok (), d') ↔ ∃ a, r = (.ok a, d') := by
  obtain ⟨result, after⟩ := r
  cases result with
  | error e => simp [withoutResult, Except.map]
  | ok a => simp [withoutResult, Except.map]

/-- An item of a list is removed if the list has others. -/
theorem Document.removeItem_list_iff (hc : d.get? id = some c) (hspec : spec ∈ k.lists)
    {index : Nat} {item : Json} :
    d.removeItem id spec.name index = (.ok item, d') ↔
      (c.data.list spec.name)[index]? = some item ∧ minItems < (c.data.list spec.name).length ∧
        d' = d.withData id
          (Object.insert spec.name (.arr ((c.data.list spec.name).eraseIdx index)) c.data) := by
  simp only [removeItem_eq_ok_iff hc (Edit.parse_list hspec), FieldPath.removeItem_eq_ok_iff,
    FieldPath.set_key, FieldPath.get?_key]
  constructor
  · rintro ⟨_, ⟨items, hget, hitem, hlength, hset⟩, rfl⟩
    cases hset
    rw [Object.list_eq hget]
    exact ⟨hitem, hlength, rfl⟩
  · -- A reader that makes do with anything found items here, so a list is there.
    rintro ⟨hitem, hlength, rfl⟩
    have hne : c.data.list spec.name ≠ [] := List.ne_nil_of_length_pos (by omega)
    exact ⟨_, ⟨_, Object.get?_of_list_ne_nil hne, hitem, hlength, rfl⟩, rfl⟩

/-- A new item is added where a list is, or nothing, or `null`. -/
theorem Edit.apply_append_iff (hc : d.get? id = some c) (hspec : spec ∈ k.lists)
    (hk : c.kind? = some k) {item : Json} (hitem : k.defaultItem spec.name c.data = some item) :
    (Edit.append spec.name).apply d id = (.ok (), d') ↔
      (c.data.get? spec.name = none ∨ c.data.get? spec.name = some .null ∨
        ∃ items, c.data.get? spec.name = some (.arr items)) ∧
        d' = d.withData id
          (Object.insert spec.name (.arr (c.data.list spec.name ++ [item])) c.data) := by
  have happly : (Edit.append spec.name).apply d id =
      withoutResult (d.appendDefault id spec.name) := rfl
  rw [happly, withoutResult_eq_ok_iff, Document.appendDefault_of_item hc hk hitem]
  simp only [Document.append_eq_ok_iff hc (parse_list hspec), FieldPath.append_eq_ok_iff,
    FieldPath.isVacant_iff, FieldPath.set_key, FieldPath.get?_key, FieldPath.itemsAt_key]
  constructor
  · rintro ⟨_, _, ⟨hvalue, rfl, hset⟩, rfl⟩
    cases hset
    exact ⟨or_assoc.mp hvalue.symm, rfl⟩
  · rintro ⟨hvalue, rfl⟩
    exact ⟨_, _, ⟨(or_assoc.mpr hvalue).symm, rfl, rfl⟩, rfl⟩

end

/-! ## Buttons -/

namespace Form

variable {d : Document} {id : Nat} {c : Component} {form : Form} {s : Section}

/-- The buttons of a section offer what the document does.  An item can be removed by a button if
and only if it can be removed from the list, and then the others show what they showed, in order
and numbered anew.  An item can be added if and only if there is a list, or nothing or `null`; then
the items that were there are as before, and after them stands the new item of the catalog.  The
form is the same in all but the section. -/
theorem buttons_exact (hc : d.get? id = some c) (hform : Form.of? c = some form)
    (hs : s ∈ form.sections) :
    (∀ index, (∃ item, s.items[index]? = some item ∧ (s.remove? item).isSome) ↔
      ∃ value d', d.removeItem id s.spec.name index = (.ok value, d')) ∧
    (∀ index item e, s.items[index]? = some item → s.remove? item = some e →
      ∃ d' s', e.apply d id = (.ok (), d') ∧ d'.Shows id (form.withSection s') ∧
        s' ∈ (form.withSection s').sections ∧ s'.spec = s.spec ∧
        s'.items.length + 1 = s.items.length ∧
        s'.items.map FormItem.display = (s.items.map FormItem.display).eraseIdx index ∧
        s'.items.map FormItem.frame = (s.items.map FormItem.frame).dropLast) ∧
    ((∃ d', s.add.apply d id = (.ok (), d')) ↔
      c.data.get? s.spec.name = none ∨ c.data.get? s.spec.name = some .null ∨
        ∃ items, c.data.get? s.spec.name = some (.arr items)) ∧
    (∀ d', s.add.apply d id = (.ok (), d') →
      ∃ s' item, d'.Shows id (form.withSection s') ∧ s' ∈ (form.withSection s').sections ∧
        s'.spec = s.spec ∧ form.kind.defaultItem s.spec.name c.data = some item ∧
        s'.items.map FormItem.content = s.items.map FormItem.content ++
          [(s.items.length, form.kind.itemFields s.spec.name s.items.length item)]) := by
  obtain ⟨k, hk, rfl⟩ := Option.map_eq_some_iff.mp hform
  rw [sections_of] at hs
  obtain ⟨spec, hspec, rfl⟩ := List.mem_map.mp hs
  obtain ⟨new, hnew, _⟩ := Kind.exists_defaultItem hspec c.data
  have hlist : ∀ items, Object.list (Object.insert spec.name (.arr items) c.data) spec.name =
      items := fun items => Object.list_eq (Object.get?_insert_self _ _ _)
  rw [Kind.spec_formSection]
  refine ⟨fun index => ?_, fun index item e hitem he => ?_, ?_, fun d' h => ?_⟩
  · simp only [Document.removeItem_list_iff hc hspec, Option.isSome_iff_exists]
    constructor
    · rintro ⟨item, hitem, e, he⟩
      obtain ⟨hmin, _⟩ := (Kind.remove?_formSection hitem).mp he
      rw [Kind.getElem?_formSection] at hitem
      obtain ⟨value, hvalue, _⟩ := Option.map_eq_some_iff.mp hitem
      exact ⟨value, _, hvalue, hmin, rfl⟩
    · rintro ⟨value, _, hvalue, hmin, _⟩
      have hitem := k.getElem?_formSection c.data spec index
      rw [hvalue] at hitem
      exact ⟨_, hitem, _, (Kind.remove?_formSection hitem).mpr ⟨hmin, rfl⟩⟩
  · obtain ⟨hmin, rfl⟩ := (Kind.remove?_formSection hitem).mp he
    rw [Kind.getElem?_formSection] at hitem
    obtain ⟨value, hvalue, rfl⟩ := Option.map_eq_some_iff.mp hitem
    obtain ⟨hindex, _⟩ := List.getElem?_eq_some_iff.mp hvalue
    have hremoved := (Document.removeItem_list_iff hc hspec).mpr ⟨hvalue, hmin, rfl⟩
    obtain ⟨hshows, hmem⟩ := Document.shows_insert hc hk hspec
      (.arr ((c.data.list spec.name).eraseIdx index))
    exact ⟨_, _, Edit.withoutResult_eq_ok_iff.mpr ⟨value, hremoved⟩, hshows, hmem, rfl,
      Kind.formSection_eraseIdx hindex (hlist _)⟩
  · rw [Section.add, Kind.spec_formSection]
    simp only [Edit.apply_append_iff hc hspec hk hnew]
    exact ⟨fun ⟨_, hvalue, _⟩ => hvalue, fun hvalue => ⟨_, hvalue, rfl⟩⟩
  · obtain ⟨_, rfl⟩ := (Edit.apply_append_iff hc hspec hk hnew).mp h
    obtain ⟨hshows, hmem⟩ := Document.shows_insert hc hk hspec
      (.arr (c.data.list spec.name ++ [new]))
    rw [Kind.length_formSection]
    exact ⟨_, new, hshows, hmem, rfl, hnew, Kind.formSection_concat (hlist _)⟩

/-- Of three tabs the second can be removed, and a fourth can be added.  Where a text is stored
instead of the tabs, none can be added. -/
theorem buttons_exact_tabs :
    let s := Kind.tabs.formSection Kind.tabs.template ⟨"tabs", "Tabs", "Tab"⟩
    let form := of .tabs 1 Kind.tabs.template
    (∃ d' s', (Edit.remove "tabs" 1).apply ((Document.empty 1).add "tabs").2 1 = (.ok (), d') ∧
      d'.Shows 1 (form.withSection s') ∧
      s'.items.map FormItem.display = (s.items.map FormItem.display).eraseIdx 1) ∧
    (∃ d' s', (Edit.append "tabs").apply ((Document.empty 1).add "tabs").2 1 = (.ok (), d') ∧
      d'.Shows 1 (form.withSection s') ∧ s'.items.length = 4) ∧
    ¬∃ d', (Edit.append "tabs").apply
      ⟨[⟨1, "tabs", [("tabs", .str "none")]⟩], none, 1, 2⟩ 1 = (.ok (), d') := by
  intro s form
  have hc : ((Document.empty 1).add "tabs").2.get? 1 =
      some ⟨1, Kind.tabs.name, Kind.tabs.template⟩ := rfl
  obtain ⟨_, hremove, haddable, hadd⟩ := buttons_exact hc rfl (List.mem_singleton.mpr (Eq.refl s))
  refine ⟨?_, ?_, ?_⟩
  · obtain ⟨d', s', happly, hshows, _, _, _, hdisplay, _⟩ := hremove 1 _ _ rfl rfl
    exact ⟨d', s', happly, hshows, hdisplay⟩
  · obtain ⟨d', happly⟩ := haddable.mpr (Or.inr (Or.inr ⟨_, rfl⟩))
    obtain ⟨s', item, hshows, _, _, _, hcontent⟩ := hadd d' happly
    have hlength := congrArg List.length hcontent
    simp only [List.length_map, List.length_append, List.length_singleton] at hlength
    exact ⟨d', s', happly, hshows, hlength⟩
  · have hc' : Document.get? ⟨[⟨1, "tabs", [("tabs", .str "none")]⟩], none, 1, 2⟩ 1 =
        some ⟨1, Kind.tabs.name, [("tabs", .str "none")]⟩ := rfl
    intro h
    have hvalue := (buttons_exact hc' rfl (List.mem_singleton.mpr rfl)).2.2.1.mp h
    obtain hnone | hnull | ⟨_, hlist⟩ := hvalue
    · cases hnone
    · cases hnull
    · cases hlist

end Form

end PageBuilder
