import PageBuilder.Proofs.Document.Values
import PageBuilder.Proofs.Form.Places

/-!
# A form made again shows the edit

The form of a component whose data was written at one of the places of the form is the form it had,
except that the fields bound to that place show what was written (`Form.of_set`).  A field is bound
to the place by the text of its path, so this rests on two facts on places: they are the same or
apart from each other, and they are read back from their texts.  The form of a columns component
with another number of columns has a field for each column, and those that are left are as they
were (`Form.fields_withColumns`).

`Form.shows_edit` says both of documents and of edits that come from the fields of a form.  What is
stored by such an edit is `Field.Stores`, and how it is shown by a field is `Field.Shows`.
-/

namespace PageBuilder

/-! ## Changing the fields of a form -/

/-- Changes every field of a part. -/
def FormPart.map (g : Field → Field) : FormPart → FormPart
  | .field f => .field (g f)
  | .list s => .list { s with items := s.items.map fun i => { i with fields := i.fields.map g } }

/-- The field without its value. -/
def Field.frame (f : Field) : Field := { f with value := .null }

/-- The field as it is when a value is stored at a binding. -/
def Field.showing (b : Binding) (v : Json) (f : Field) : Field :=
  if f.binding = b then { f with value := f.control.shown v } else f

namespace Field

variable {b : Binding} {v : Json} {f : Field}

@[simp] theorem binding_showing : (f.showing b v).binding = f.binding := by
  unfold showing
  split <;> rfl

@[simp] theorem control_showing : (f.showing b v).control = f.control := by
  unfold showing
  split <;> rfl

theorem value_showing (h : f.binding = b) : (f.showing b v).value = f.control.shown v := by
  rw [showing, if_pos h]

end Field

namespace Form

/-- Changes every field of a form. -/
def map (g : Field → Field) (form : Form) : Form :=
  { form with parts := form.parts.map (·.map g) }

/-- The form without the values: its parts, items, labels, bindings and controls. -/
def frame (form : Form) : Form := form.map Field.frame

theorem fields_map (g : Field → Field) (form : Form) :
    (form.map g).fields = form.fields.map g := by
  have hpart : ∀ part : FormPart, (part.map g).fields = part.fields.map g := by
    intro part
    cases part with
    | field f => rfl
    | list s => simp [FormPart.map, FormPart.fields, List.flatMap_map, List.map_flatMap]
  simp [fields, map, List.flatMap_map, List.map_flatMap, hpart]

theorem map_map (g h : Field → Field) (form : Form) :
    (form.map g).map h = form.map (h ∘ g) := by
  have hpart : ∀ part : FormPart, (part.map g).map h = part.map (h ∘ g) := by
    intro part
    cases part with
    | field f => rfl
    | list s => simp [FormPart.map]
  simp [map, hpart]

/-- What a field shows is no part of the frame. -/
theorem frame_showing (b : Binding) (v : Json) (form : Form) :
    (form.map (Field.showing b v)).frame = form.frame := by
  have hfield : Field.frame ∘ Field.showing b v = Field.frame := by
    funext f
    rw [Function.comp_apply, Field.showing]
    split <;> rfl
  rw [frame, map_map, hfield, frame]

end Form

/-! ## Forms of data that was written -/

section

variable {k : Kind} {p : FieldPath} {v : Json} {data after : Object}

/-- After a write at a place, an entry of a form is as before, or shows what was written. -/
theorem Entry.field_set (hp : k.Place p) (hparse : FieldPath.parse p.text = .ok p)
    (hset : p.set v data = .ok after) {s s' : Scope} {e : Entry} (h : k.Fills data s e)
    (h' : k.Fills after s' e) (hspot : s'.place? e.target = s.place? e.target) :
    e.field s' = (e.field s).showing (.path p.text) v := by
  rcases h.place with ⟨q, hq, hplace, hbinding, hvalue⟩ | ⟨_, rfl, htarget⟩
  all_goals rcases h'.place with ⟨q', hq', _, hbinding', hvalue'⟩ | ⟨_, rfl, htarget'⟩
  · have he : q' = q := Option.some.inj (hq'.symm.trans (hspot.trans hq))
    subst he
    rcases hp.eq_or_apart hplace with rfl | hapart
    · have hget : p.get? after = some v := FieldPath.get?_set hset
      simp [Field.showing, Entry.field, hbinding, hbinding', hvalue', hget]
    · have hget : q'.get? after = q'.get? data := FieldPath.get?_set_of_apart hapart hset
      -- Of two places with one text only one could be read from it.
      have htext : q'.text ≠ p.text := by
        intro htext
        have he : p = q' := FieldPath.eq_of_parse_text hplace.named (htext ▸ hparse)
        exact hapart.1 (he ▸ List.prefix_rfl)
      simp [Field.showing, Entry.field, hbinding, hbinding', hvalue, hvalue', hget, htext]
  · rw [htarget', Scope.place?_columnCount] at hq
    cases hq
  · rw [htarget, Scope.place?_columnCount] at hq'
    cases hq'
  · have hget : after.get? "columnCount" = data.get? "columnCount" :=
      FieldPath.get?_key_set hp.head_ne hset
    simp [Field.showing, Entry.field, htarget, Scope.binding, Scope.value, Scope.fields,
      Object.textOr, Object.text, hget]

/-- What is made of the fields of each item of a list, after a write at a place. -/
theorem Kind.mapIdx_itemFields_set {β : Type} (hp : k.Place p)
    (hparse : FieldPath.parse p.text = .ok p) (hset : p.set v data = .ok after) {list : String}
    (hlist : list ∈ k.itemLists) (make : Nat → List Field → β) (change : β → β)
    (hmake : ∀ index fields, make index (fields.map (Field.showing (.path p.text) v)) =
      change (make index fields)) :
    ((after.list list).mapIdx fun index value => make index (k.itemFields list index value)) =
      ((data.list list).mapIdx fun index value =>
        make index (k.itemFields list index value)).map change := by
  refine List.ext_getElem? fun index => ?_
  have hlength := hp.length_list hset hlist
  rw [List.getElem?_map, List.getElem?_mapIdx, List.getElem?_mapIdx]
  cases hvalue : (data.list list)[index]? with
  | none =>
      have hnone : (after.list list)[index]? = none := by
        rw [List.getElem?_eq_none_iff] at hvalue ⊢
        omega
      rw [hnone]
      rfl
  | some value =>
      obtain ⟨hlt, _⟩ := List.getElem?_eq_some_iff.mp hvalue
      obtain ⟨value', hvalue'⟩ : ∃ value', (after.list list)[index]? = some value' :=
        ⟨_, List.getElem?_eq_getElem (hlength ▸ hlt)⟩
      have hfields : k.itemFields list index value' =
          (k.itemFields list index value).map (Field.showing (.path p.text) v) := by
        rw [Kind.itemFields, Kind.itemFields, List.map_map]
        refine List.map_congr_left fun e he => ?_
        exact Entry.field_set hp hparse hset (.item hlist hvalue he) (.item hlist hvalue' he)
          (by cases e.target <;> rfl)
      rw [hvalue', Option.map_some, Option.map_some, Option.map_some, hfields, hmake]

/-- The form of data that was written at a place is the form it had, with what was written shown
by the fields of the place. -/
theorem Form.of_set (hp : k.Place p) (hparse : FieldPath.parse p.text = .ok p)
    (hset : p.set v data = .ok after) (id : Nat) :
    Form.of k id after = (Form.of k id data).map (Field.showing (.path p.text) v) := by
  have hown : ∀ e ∈ Form.entries k, e.field (.component after) =
      (e.field (.component data)).showing (.path p.text) v := fun e he =>
    Entry.field_set hp hparse hset (.own he) (.own he) (by cases e.target <;> rfl)
  have hcolumns : k.columnFields after =
      (k.columnFields data).map (Field.showing (.path p.text) v) := by
    unfold Kind.columnFields
    split
    next hk =>
      have hitems := k.mapIdx_itemFields_set hp hparse hset (columns_mem_itemLists hk)
        (fun _ fields => fields) (List.map (Field.showing (.path p.text) v)) fun _ _ => rfl
      rw [hitems, List.map_flatten]
    next => rfl
  have hsections : ∀ spec ∈ k.lists, FormPart.list (k.formSection after spec) =
      (FormPart.list (k.formSection data spec)).map (Field.showing (.path p.text) v) := by
    intro spec hspec
    have hlist := mem_itemLists_of_mem hspec
    have hitems := k.mapIdx_itemFields_set hp hparse hset hlist
      (fun index fields => FormItem.mk index fields (minItems < (data.list spec.name).length))
      (fun item => { item with fields := item.fields.map (Field.showing (.path p.text) v) })
      fun _ _ => rfl
    rw [Kind.formSection, hp.length_list hset hlist, hitems]
    rfl
  simp only [Form.of, Form.map, List.map_append, List.map_map, hcolumns, Form.mk.injEq, true_and]
  rw [List.map_congr_left fun e he => congrArg FormPart.field (hown e he),
    List.map_congr_left hsections]
  rfl

end

/-! ## What an edit stores -/

/-- Whether a field shows a stored value: a comma list shows its joined text, every other field the
value itself, and of a choice the options are selected that are the text of the value. -/
structure Field.Shows (f : Field) (stored : Json) : Prop where
  joined : ∀ numeric, f.control = .commaList numeric →
    f.value = .str (CommaList.join stored.items)
  plain : (∀ numeric, f.control ≠ .commaList numeric) → f.value = stored
  chosen : ∀ options numeric, f.control = .select options numeric →
    ∀ option, f.isSelected option = (option == stored.text)

theorem Control.isCommaList_of_showsLike {a b : Control} (h : a.showsLike b = true)
    (ha : ∃ numeric, a = .commaList numeric) : ∃ numeric, b = .commaList numeric := by
  obtain ⟨numeric, rfl⟩ := ha
  cases b with
  | commaList numeric => exact ⟨numeric, rfl⟩
  | _ => cases h

/-- A field whose value is what its control shows of a stored value shows it. -/
theorem Field.shows_of_value {g : Field} {stored : Json} (hvalue : g.value = g.control.shown stored)
    (hplain : (∀ numeric, g.control ≠ .commaList numeric) → g.control.shown stored = stored) :
    g.Shows stored := by
  refine ⟨?_, fun hcontrol => hvalue.trans (hplain hcontrol), ?_⟩
  · intro numeric hcontrol
    rw [hvalue, hcontrol]
    rfl
  · intro options numeric hcontrol option
    rw [Field.isSelected, hvalue, hcontrol]
    rfl

/-- What is stored by an edit that comes from a field which is bound to a path. -/
inductive Field.Stores (f : Field) (path input : String) : Edit → Json → Prop where
  | plain {stored : Json} : (∀ numeric, f.control ≠ .commaList numeric) →
      (f.control = .checkbox → stored = .bool (Field.ticks.contains (Text.trim input))) →
      Stores f path input (.set path stored) stored
  | commaList {numeric : Bool} : f.control = .commaList numeric →
      Stores f path input (.setCommaList path input numeric) (CommaList.stored input numeric)

namespace Field

variable {f : Field} {path input : String} {e : Edit} {stored : Json}

theorem stores_of_edit? (hb : f.binding = .path path) (he : f.edit? input = some e) :
    ∃ stored, f.Stores path input e stored := by
  unfold edit? at he
  rw [hb] at he
  cases hcontrol : f.control
  all_goals rw [hcontrol] at he
  case commaList numeric =>
    cases he
    exact ⟨_, .commaList hcontrol⟩
  case file => cases he
  case select options numeric =>
    cases numeric
    all_goals
      cases he
      exact ⟨_, .plain (by simp [hcontrol]) (by simp [hcontrol])⟩
  case checkbox =>
    cases he
    exact ⟨_, .plain (by simp [hcontrol]) fun _ => rfl⟩
  all_goals
    cases he
    exact ⟨_, .plain (by simp [hcontrol]) (by simp [hcontrol])⟩

theorem Stores.apply (h : f.Stores path input e stored) (d : Document) (id : Nat) :
    e.apply d id = d.patch id path stored := by
  cases h <;> rfl

/-- What a field stores is shown as it is by every field like it that is no comma list. -/
theorem Stores.shown_eq (h : f.Stores path input e stored) {control : Control}
    (hlike : f.control.showsLike control = true)
    (hplain : ∀ numeric, control ≠ .commaList numeric) : control.shown stored = stored := by
  cases h with
  | plain _ hcheckbox =>
      cases hcontrol : control with
      | commaList numeric => exact absurd hcontrol (hplain numeric)
      | checkbox =>
          have hbox : f.control = .checkbox := by
            rw [hcontrol] at hlike
            cases hf : f.control <;> rw [hf] at hlike <;> first | rfl | cases hlike
          rw [hcheckbox hbox]
          rfl
      | _ => rfl
  | commaList hcontrol =>
      obtain ⟨numeric, hc⟩ := Control.isCommaList_of_showsLike hlike ⟨_, hcontrol⟩
      exact absurd hc (hplain numeric)

end Field

/-! ## Columns -/

/-- The field of a column. -/
def Form.columnField (index : Nat) (value : Json) : Field :=
  (Entry.longText ("Column " ++ toString (index + 1)) "content").field (.item "columns" index value)

theorem flatten_mapIdx_singleton {α β : Type} (f : Nat → α → β) (xs : List α) :
    (xs.mapIdx fun index x => [f index x]).flatten = xs.mapIdx f := by
  induction xs generalizing f with
  | nil => rfl
  | cons x rest ih => simp [List.mapIdx_cons, ih]

/-- The form of a columns component has its own fields, then one for each column. -/
theorem Form.fields_columns (id : Nat) (data : Object) :
    (Form.of .columns id data).fields =
      (Form.entries .columns).map (Entry.field (.component data)) ++
        (data.list "columns").mapIdx Form.columnField := by
  have hcolumns : Kind.columnFields .columns data =
      (data.list "columns").mapIdx Form.columnField :=
    flatten_mapIdx_singleton Form.columnField (data.list "columns")
  rw [← hcolumns]
  simp [Form.fields, Form.of, Kind.lists, FormPart.fields, List.flatMap_map, ← List.map_eq_flatMap]

/-- With another number of columns the form has a field for each of them, and the fields of the
component and of the columns that are left are as they were. -/
theorem Form.fields_withColumns (id count : Nat) (data : Object) :
    (Form.of .columns id (withColumns count data)).fields.map Field.binding =
      .columnCount :: .path "backgroundColor" ::
        (List.range count).map (fun i => .path (FieldPath.itemField "columns" i "content")) ∧
    ∀ (i : Nat) (g : Field), i ≤ count → (Form.of .columns id data).fields[i + 1]? = some g →
      (Form.of .columns id (withColumns count data)).fields[i + 1]? = some g := by
  rw [fields_columns, fields_columns, Object.list_eq (get?_withColumns count data)]
  constructor
  · have hcolumns : ((resize count newColumn (data.list "columns")).mapIdx columnField).map
        Field.binding =
          (List.range count).map fun i => .path (FieldPath.itemField "columns" i "content") := by
      refine List.ext_getElem (by simp [length_resize]) fun i _ _ => ?_
      simp only [List.getElem_map, List.getElem_mapIdx, List.getElem_range]
      rfl
    rw [List.map_append, hcolumns]
    rfl
  · intro i g hi hg
    cases i with
    | zero =>
        have hcolor : (withColumns count data).get? "backgroundColor" =
            data.get? "backgroundColor" := by
          simp [withColumns, Object.get?_insert_of_ne]
        simpa [entries, Entry.field, Entry.color, Scope.value, Scope.fields, Scope.binding,
          Scope.path, hcolor] using hg
    | succ i =>
        have hold : ((data.list "columns").mapIdx columnField)[i]? = some g := hg
        show ((resize count newColumn (data.list "columns")).mapIdx columnField)[i]? = some g
        have hlength : i < (data.list "columns").length := by
          simpa using (List.getElem?_eq_some_iff.mp hold).1
        rw [List.getElem?_mapIdx] at hold ⊢
        rw [getElem?_resize hi hlength, hold]

/-! ## Edits of documents -/

namespace Form

variable {d d' : Document} {id : Nat} {c : Component} {form : Form}

/-- A write at a path that a field is bound to gives the form that shows it. -/
theorem of_patch {k : Kind} (hc : d.get? id = some c) {f : Field}
    (hf : f ∈ (Form.of k c.id c.data).fields) {path : String} {stored : Json}
    (hb : f.binding = .path path) (h : d.patch id path stored = (.ok (), d')) :
    ∃ p after, FieldPath.parse path = .ok p ∧ d'.get? id = some { c with data := after } ∧
      p.get? after = some stored ∧
      Form.of k c.id after = (Form.of k c.id c.data).map (Field.showing (.path path) stored) := by
  obtain ⟨s, e, hfills, rfl⟩ := mem_fields_of.mp hf
  have hw := d.patch_writes id path stored
  rw [h] at hw
  cases hw with
  | @written c' _ after hc' hset =>
      rw [hc] at hc'
      cases hc'
      obtain ⟨p, hparse, hset⟩ := hset
      obtain ⟨_, hplace, rfl⟩ := hfills.place_of_binding hb hparse
      exact ⟨p, after, hparse, Document.get?_withData hc after, FieldPath.get?_set hset,
        of_set hplace hparse hset c.id⟩

/-- Fields that are bound to one path show alike what is stored there. -/
theorem showsLike_of_binding {k : Kind} {data data' : Object} {f g : Field} {path : String}
    {p : FieldPath} (hparse : FieldPath.parse path = .ok p)
    (hf : f ∈ (Form.of k id data).fields) (hg : g ∈ (Form.of k id data').fields)
    (hfb : f.binding = .path path) (hgb : g.binding = .path path) :
    f.control.showsLike g.control = true := by
  obtain ⟨s, e, hfills, rfl⟩ := mem_fields_of.mp hf
  obtain ⟨s', e', hfills', rfl⟩ := mem_fields_of.mp hg
  obtain ⟨hplace, _⟩ := hfills.place_of_binding hfb hparse
  obtain ⟨hplace', _⟩ := hfills'.place_of_binding hgb hparse
  exact hfills.showsLike hfills' hplace hplace'

/-- A form made again after an edit that came from one of its fields has the parts it had.  Every
field bound to the path of the edit shows what was stored, and all others are as they were.  After
an edit of the number of columns there is a field for each column, and those of columns that were
there are as they were. -/
theorem shows_edit (hc : d.get? id = some c) (hform : Form.of? c = some form) :
    (∀ f ∈ form.fields, ∀ path input e d', f.binding = .path path → f.edit? input = some e →
      e.apply d id = (.ok (), d') →
      ∃ c' form' p stored, d'.get? id = some c' ∧ Form.of? c' = some form' ∧
        f.Stores path input e stored ∧
        FieldPath.parse path = .ok p ∧ p.get? c'.data = some stored ∧
        form'.frame = form.frame ∧
        (∀ g ∈ form'.fields, g.binding = .path path → g.Shows stored) ∧
        ∀ (i : Nat) (g g' : Field), form.fields[i]? = some g → form'.fields[i]? = some g' →
          g.binding ≠ .path path → g' = g) ∧
    (∀ f ∈ form.fields, ∀ input e d', f.binding = .columnCount → f.edit? input = some e →
      e.apply d id = (.ok (), d') →
      ∃ n c' form', e = .setColumnCount n ∧ d'.get? id = some c' ∧ Form.of? c' = some form' ∧
        form'.fields.map Field.binding =
          .columnCount :: .path "backgroundColor" ::
            (List.range n).map (fun i => .path (FieldPath.itemField "columns" i "content")) ∧
        ∀ (i : Nat) (g : Field), i ≤ n → form.fields[i + 1]? = some g →
          form'.fields[i + 1]? = some g) := by
  obtain ⟨k, hk, rfl⟩ := Option.map_eq_some_iff.mp hform
  have hform' : ∀ after, Form.of? { c with data := after } = some (of k c.id after) :=
    fun after => Option.map_eq_some_iff.mpr ⟨k, hk, rfl⟩
  constructor
  · intro f hf path input e d' hb he happly
    obtain ⟨stored, hstores⟩ := Field.stores_of_edit? hb he
    rw [hstores.apply] at happly
    obtain ⟨p, after, hparse, hafter, hget, hshown⟩ := of_patch hc hf hb happly
    refine ⟨_, _, p, stored, hafter, hform' after, hstores, hparse, hget, ?_, ?_, ?_⟩
    · rw [hshown, frame_showing]
    · intro g hg hgb
      have hlike := showsLike_of_binding hparse hf hg hb hgb
      refine Field.shows_of_value ?_ (hstores.shown_eq hlike)
      rw [hshown, fields_map] at hg
      obtain ⟨old, _, rfl⟩ := List.mem_map.mp hg
      rw [Field.value_showing (Field.binding_showing.symm.trans hgb), Field.control_showing]
    · intro i g g' hg hg' hne
      rw [hshown, fields_map, List.getElem?_map, hg] at hg'
      cases hg'
      exact if_neg hne
  · intro f hf input e d' hb he happly
    have hcolumns : k = .columns := by
      obtain ⟨s, entry, hfills, rfl⟩ := mem_fields_of.mp hf
      obtain ⟨_, _, _, hbinding, _⟩ | ⟨hcolumns, _⟩ := hfills.place
      · cases hbinding.symm.trans hb
      · exact hcolumns
    subst hcolumns
    rw [Field.edit?, hb] at he
    obtain ⟨n, _, rfl⟩ := Option.map_eq_some_iff.mp he
    have hw := d.setColumnCount_writes id n
    rw [show d.setColumnCount id n = (.ok (), d') from happly] at hw
    cases hw with
    | written hc' hafter =>
        rw [hc] at hc'
        cases hc'
        obtain ⟨_, rfl⟩ := hafter
        exact ⟨n, _, _, rfl, Document.get?_withData hc _, hform' _,
          fields_withColumns c.id n c.data⟩

/-- The links of a navigation bar are entered as one text, and shown without what is empty. -/
theorem shows_edit_navbar :
    ∃ c' form', ((Edit.setCommaList "links" "Shop, About ,, Cart" false).apply
        ((Document.empty 1).add "navbar").2 1).2.get? 1 = some c' ∧
      Form.of? c' = some form' ∧
      form'.frame = (of .navbar 1 Kind.navbar.template).frame ∧
      ∀ g ∈ form'.fields, g.binding = .path "links" → g.control = .commaList false →
        g.value = .str "Shop, About, Cart" := by
  have hc : ((Document.empty 1).add "navbar").2.get? 1 =
      some ⟨1, "navbar", Kind.navbar.template⟩ := rfl
  have hf : (Entry.commaList "Navigation Links (comma-separated)" "links").field
      (.component Kind.navbar.template) ∈ (of .navbar 1 Kind.navbar.template).fields :=
    List.mem_of_getElem? (i := 1) rfl
  have happly : ((Edit.setCommaList "links" "Shop, About ,, Cart" false).apply
      ((Document.empty 1).add "navbar").2 1).1 = .ok () := rfl
  have hjoined : CommaList.join (CommaList.stored "Shop, About ,, Cart" false).items =
      "Shop, About, Cart" := by
    decide +kernel
  obtain ⟨c', form', p, stored, hc', hform', hstores, _, _, hframe, hshows, _⟩ :=
    (shows_edit hc rfl).1 _ hf "links" "Shop, About ,, Cart" _ _ rfl rfl (Prod.ext happly rfl)
  refine ⟨c', form', hc', hform', hframe, fun g hg hgb hcontrol => ?_⟩
  cases hstores
  rw [(hshows g hg hgb).joined false hcontrol, hjoined]

end Form

end PageBuilder
