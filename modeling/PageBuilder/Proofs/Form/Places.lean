import PageBuilder.Form.Of
import PageBuilder.Proofs.Path.Lens
import PageBuilder.Proofs.Path.Text

/-!
# Where the fields of a form write

The fields of a form are the entries of a layout, each filled from the component or from an item of
one of its lists (`mem_fields_of`).  An entry is bound to the text of a path, its *place*, and shows
what is stored there (`Kind.Fills.place`).  Of the places of one form none is the beginning of
another (`Kind.Place.eq_or_apart`), and a place is what is read from its text
(`Kind.Fills.place_of_binding`).

All this rests on what the layouts of the kinds have in common: the own fields of a component are
stored under other names than its lists, and the items of a list are either all written as a whole
or all field by field.  These facts on layouts are decided kind by kind (`entries_sound`,
`items_sound`, `itemLists_sound`), and nothing else here looks at a single kind.
-/

namespace PageBuilder

open FieldPath (IsName)

/-! ## Layouts -/

/-- The lists whose items have fields in the form of a kind. -/
def Kind.itemLists (k : Kind) : List String :=
  (if k = .columns then ["columns"] else []) ++ k.lists.map ListSpec.name

/-- Whether the items of the lists of a kind are written as a whole. -/
def Kind.hasWholeItems : Kind → Bool
  | .gallery | .logos => true
  | _ => false

/-- Whether a target can be one of the own fields of a component. -/
def Kind.allowsOwn (k : Kind) : Target → Bool
  | .field key => decide (IsName key) && !k.itemLists.contains key && key != "columnCount"
  | .whole => false
  | .columnCount => k = .columns

/-- Whether a target can be one of the fields of a list item. -/
def Kind.allowsItem (k : Kind) : Target → Bool
  | .field key => decide (IsName key) && !k.hasWholeItems
  | .whole => k.hasWholeItems
  | .columnCount => false

/-- Whether two controls show a stored value in the same way. -/
def Control.showsLike : Control → Control → Bool
  | .checkbox, .checkbox | .commaList _, .commaList _ => true
  | .checkbox, _ | .commaList _, _ | _, .checkbox | _, .commaList _ => false
  | _, _ => true

/-- Whether what is written to one target is shown in the same way wherever it is shown. -/
def Entry.agree (layout : List (Target × Control)) : Bool :=
  layout.all fun a => layout.all fun b => a.1 != b.1 || a.2.showsLike b.2

/-- What an entry writes to, and how. -/
def Entry.use (e : Entry) : Target × Control := (e.target, e.control)

theorem entries_sound (k : Kind) :
    (Form.entries k).all (k.allowsOwn ·.target) = true ∧
      Entry.agree ((Form.entries k).map Entry.use) = true := by
  have hall : ∀ k ∈ Kind.all, (Form.entries k).all (k.allowsOwn ·.target) = true ∧
      Entry.agree ((Form.entries k).map Entry.use) = true := by decide +kernel
  exact hall k k.mem_all

/-- An own entry of a component is a field under the name of none of its lists, or the number of
columns. -/
theorem Entry.own_target {k : Kind} {e : Entry} (h : e ∈ Form.entries k) :
    (∃ key, e.target = .field key ∧ IsName key ∧ key ∉ k.itemLists ∧ key ≠ "columnCount") ∨
      (k = .columns ∧ e.target = .columnCount) := by
  have hallowed := List.all_eq_true.mp (entries_sound k).1 e h
  cases htarget : e.target with
  | field key =>
      have hkey : (IsName key ∧ key ∉ k.itemLists) ∧ key ≠ "columnCount" := by
        simpa [Kind.allowsOwn, htarget] using hallowed
      exact Or.inl ⟨key, rfl, hkey.1.1, hkey.1.2, hkey.2⟩
  | whole => simp [Kind.allowsOwn, htarget] at hallowed
  | columnCount =>
      have hk : k = .columns := by simpa [Kind.allowsOwn, htarget] using hallowed
      exact Or.inr ⟨hk, rfl⟩

/-- Only labels depend on the position of an item. -/
theorem map_use_itemEntries (k : Kind) (index : Nat) :
    (Form.itemEntries k index).map Entry.use = (Form.itemEntries k 0).map Entry.use := by
  cases k <;> rfl

theorem items_sound (k : Kind) :
    ((Form.itemEntries k 0).map Entry.use).all (k.allowsItem ·.1) = true ∧
      Entry.agree ((Form.itemEntries k 0).map Entry.use) = true := by
  have hall : ∀ k ∈ Kind.all,
      ((Form.itemEntries k 0).map Entry.use).all (k.allowsItem ·.1) = true ∧
        Entry.agree ((Form.itemEntries k 0).map Entry.use) = true := by decide +kernel
  exact hall k k.mem_all

theorem use_mem {k : Kind} {index : Nat} {e : Entry} (h : e ∈ Form.itemEntries k index) :
    e.use ∈ (Form.itemEntries k 0).map Entry.use :=
  map_use_itemEntries k index ▸ List.mem_map_of_mem h

theorem itemLists_sound (k : Kind) :
    k.itemLists.all (fun name => decide (IsName name) && name != "columnCount") = true := by
  have hall : ∀ k ∈ Kind.all,
      k.itemLists.all (fun name => decide (IsName name) && name != "columnCount") = true := by
    decide +kernel
  exact hall k k.mem_all

/-! ## The entries of a form -/

/-- Where the entries of the form of a component are filled from: the component itself, and the
items that its lists have. -/
inductive Kind.Fills (k : Kind) (data : Object) : Scope → Entry → Prop where
  | own {e : Entry} : e ∈ Form.entries k → Fills k data (.component data) e
  | item {list : String} {index : Nat} {value : Json} {e : Entry} :
      list ∈ k.itemLists → (data.list list)[index]? = some value → e ∈ Form.itemEntries k index →
      Fills k data (.item list index value) e

/-- The fields of the items of a list. -/
theorem mem_flatten_itemFields {k : Kind} {list : String} {values : List Json} {f : Field} :
    f ∈ (values.mapIdx fun index value => k.itemFields list index value).flatten ↔
      ∃ index value e, values[index]? = some value ∧ e ∈ Form.itemEntries k index ∧
        f = e.field (.item list index value) := by
  simp only [List.mem_flatten, List.mem_mapIdx, Kind.itemFields]
  constructor
  · rintro ⟨_, ⟨index, hlt, rfl⟩, hf⟩
    obtain ⟨e, he, rfl⟩ := List.mem_map.mp hf
    exact ⟨index, values[index], e, List.getElem?_eq_getElem hlt, he, rfl⟩
  · rintro ⟨index, value, e, hvalue, he, rfl⟩
    obtain ⟨hlt, rfl⟩ := List.getElem?_eq_some_iff.mp hvalue
    exact ⟨_, ⟨index, hlt, rfl⟩, List.mem_map.mpr ⟨e, he, rfl⟩⟩

theorem mem_columnFields {k : Kind} {data : Object} {f : Field} :
    f ∈ k.columnFields data ↔ k = .columns ∧ ∃ index value e,
      (data.list "columns")[index]? = some value ∧ e ∈ Form.itemEntries k index ∧
        f = e.field (.item "columns" index value) := by
  unfold Kind.columnFields
  split
  next hk =>
    rw [mem_flatten_itemFields]
    simp [hk]
  next hk => simp [hk]

theorem mem_formSection {k : Kind} {data : Object} {spec : ListSpec} {f : Field} :
    f ∈ (FormPart.list (k.formSection data spec)).fields ↔ ∃ index value e,
      (data.list spec.name)[index]? = some value ∧ e ∈ Form.itemEntries k index ∧
        f = e.field (.item spec.name index value) := by
  rw [← mem_flatten_itemFields]
  simp [FormPart.fields, Kind.formSection, List.mem_flatten, List.mem_mapIdx]

theorem mem_itemLists {k : Kind} {list : String} :
    list ∈ k.itemLists ↔ (k = .columns ∧ list = "columns") ∨ ∃ spec ∈ k.lists, spec.name = list := by
  unfold Kind.itemLists
  by_cases hk : k = .columns <;> simp [hk]

theorem mem_itemLists_of_mem {k : Kind} {spec : ListSpec} (h : spec ∈ k.lists) :
    spec.name ∈ k.itemLists :=
  mem_itemLists.mpr (Or.inr ⟨spec, h, rfl⟩)

theorem columns_mem_itemLists {k : Kind} (h : k = .columns) : "columns" ∈ k.itemLists :=
  mem_itemLists.mpr (Or.inl ⟨h, rfl⟩)

/-- The fields of a form are its entries, filled. -/
theorem mem_fields_of {k : Kind} {id : Nat} {data : Object} {f : Field} :
    f ∈ (Form.of k id data).fields ↔ ∃ s e, k.Fills data s e ∧ f = e.field s := by
  have hparts : f ∈ (Form.of k id data).fields ↔
      (∃ e ∈ Form.entries k, f = e.field (.component data)) ∨ f ∈ k.columnFields data ∨
        ∃ spec ∈ k.lists, f ∈ (FormPart.list (k.formSection data spec)).fields := by
    simp [Form.fields, Form.of, FormPart.fields, eq_comm]
  rw [hparts]
  constructor
  · rintro (⟨e, he, rfl⟩ | hcolumn | ⟨spec, hspec, hf⟩)
    · exact ⟨_, e, .own he, rfl⟩
    · obtain ⟨hk, index, value, e, hvalue, he, rfl⟩ := mem_columnFields.mp hcolumn
      exact ⟨_, e, .item (columns_mem_itemLists hk) hvalue he, rfl⟩
    · obtain ⟨index, value, e, hvalue, he, rfl⟩ := mem_formSection.mp hf
      exact ⟨_, e, .item (mem_itemLists_of_mem hspec) hvalue he, rfl⟩
  · rintro ⟨s, e, hfills, rfl⟩
    cases hfills with
    | own he => exact Or.inl ⟨e, he, rfl⟩
    | item hlist hvalue he =>
        rcases mem_itemLists.mp hlist with ⟨hk, rfl⟩ | ⟨spec, hspec, rfl⟩
        · exact Or.inr (Or.inl (mem_columnFields.mpr ⟨hk, _, _, e, hvalue, he, rfl⟩))
        · exact Or.inr (Or.inr ⟨spec, hspec, mem_formSection.mpr ⟨_, _, e, hvalue, he, rfl⟩⟩)

/-! ## Places -/

/-- The path that a target is written at, if it is written at a path. -/
def Scope.place? : Scope → Target → Option FieldPath
  | .component _, .field key => some ⟨key, []⟩
  | .item list index _, .field key => some ⟨list, [.index index, .key key]⟩
  | .item list index _, .whole => some ⟨list, [.index index]⟩
  | _, _ => none

theorem Scope.place?_columnCount (s : Scope) : s.place? .columnCount = none := by
  cases s <;> rfl

/-- What a path is the place of can be read off it. -/
theorem Scope.eq_of_place? {s s' : Scope} {t t' : Target} {q : FieldPath}
    (h : s.place? t = some q) (h' : s'.place? t' = some q) :
    t = t' ∧ ((∃ data data', s = .component data ∧ s' = .component data') ∨
      ∃ list index v v', s = .item list index v ∧ s' = .item list index v') := by
  cases s with
  | component data =>
      cases t <;> cases h
      cases s' <;> cases t' <;> cases h'
      exact ⟨rfl, Or.inl ⟨_, _, rfl, rfl⟩⟩
  | item list index v =>
      cases t <;> cases h
      all_goals
        cases s' <;> cases t' <;> cases h'
        exact ⟨rfl, Or.inr ⟨_, _, _, _, rfl, rfl⟩⟩

/-- The paths that the form of a kind may write at: an own field, a field of a list item, or a list
item as a whole. -/
inductive Kind.Place (k : Kind) : FieldPath → Prop where
  | own {key : String} : IsName key → key ∉ k.itemLists → key ≠ "columnCount" → Place k ⟨key, []⟩
  | field {list key : String} {index : Nat} : list ∈ k.itemLists → k.hasWholeItems = false →
      IsName key → Place k ⟨list, [.index index, .key key]⟩
  | whole {list : String} {index : Nat} : list ∈ k.itemLists → k.hasWholeItems = true →
      Place k ⟨list, [.index index]⟩

namespace Kind.Place

variable {k : Kind} {p q : FieldPath}

theorem isName_of_mem {list : String} (h : list ∈ k.itemLists) :
    IsName list ∧ list ≠ "columnCount" := by
  simpa using List.all_eq_true.mp (itemLists_sound k) list h

theorem named (h : k.Place p) : p.Named := by
  cases h with
  | own hkey => exact ⟨hkey, by simp⟩
  | field hlist _ hkey => exact ⟨(isName_of_mem hlist).1, by simp [hkey]⟩
  | whole hlist => exact ⟨(isName_of_mem hlist).1, by simp⟩

/-- No place is inside the number of columns. -/
theorem head_ne (h : k.Place p) : p.head ≠ "columnCount" := by
  cases h with
  | own _ _ hne => exact hne
  | field hlist => exact (isName_of_mem hlist).2
  | whole hlist => exact (isName_of_mem hlist).2

/-- How long a place is depends on where it starts. -/
theorem length_steps (h : k.Place p) :
    p.steps.length =
      if p.head ∈ k.itemLists then (if k.hasWholeItems then 1 else 2) else 0 := by
  cases h with
  | own _ hown => simp [hown]
  | field hlist hwhole => simp [hlist, hwhole]
  | whole hlist hwhole => simp [hlist, hwhole]

theorem eq_of_begins (hp : k.Place p) (hq : k.Place q) (h : p.segments <+: q.segments) :
    p = q := by
  have hhead : p.head = q.head := by
    obtain ⟨rest, hrest⟩ := h
    simpa [FieldPath.segments] using congrArg List.head? hrest
  have hlength : p.steps.length = q.steps.length := by
    rw [hp.length_steps, hq.length_steps, hhead]
  have hsegments : p.segments = q.segments :=
    h.eq_of_length (by simp [FieldPath.segments, hlength])
  cases p
  cases q
  cases hsegments
  rfl

/-- Two places of one kind are the same or apart from each other. -/
theorem eq_or_apart (hp : k.Place p) (hq : k.Place q) : p = q ∨ p.Apart q := by
  by_cases he : p = q
  · exact Or.inl he
  · exact Or.inr ⟨fun h => he (eq_of_begins hp hq h), fun h => he (eq_of_begins hq hp h).symm⟩

end Kind.Place

/-! ## Keys and items -/

namespace FieldPath

variable {p q : FieldPath} {v : Json} {data after : Object}

theorem apart_of_head_ne (h : p.head ≠ q.head) : p.Apart q := by
  constructor
  · rintro ⟨rest, hrest⟩
    exact h (by simpa [segments] using congrArg List.head? hrest)
  · rintro ⟨rest, hrest⟩
    exact h (by simpa [segments, eq_comm] using congrArg List.head? hrest)

theorem get?_key (key : String) (data : Object) :
    FieldPath.get? ⟨key, []⟩ data = Object.get? key data := by
  show (Object.get? key data).bind some = _
  rw [Option.bind_fun_some]

theorem set_key (key : String) (v : Json) (data : Object) :
    FieldPath.set ⟨key, []⟩ v data = .ok (Object.insert key v data) := rfl

/-- Setting leaves every key but the one the path starts with. -/
theorem get?_key_set {key : String} (h : p.head ≠ key) (hset : p.set v data = .ok after) :
    Object.get? key after = Object.get? key data := by
  rw [← get?_key, ← get?_key]
  exact get?_set_of_apart (apart_of_head_ne h) hset

/-- Setting something in a list changes the item that it is in. -/
theorem set_item_eq_ok {list : String} {index : Nat} {steps : List Segment} :
    FieldPath.set ⟨list, .index index :: steps⟩ v data = .ok after ↔
      ∃ items item w, data.get? list = some (.arr items) ∧ items[index]? = some item ∧
        Json.write (FieldPath.text ⟨list, .index index :: steps⟩) v steps item = .ok w ∧
        after = Object.insert list (.arr (items.set index w)) data := by
  constructor
  · intro h
    obtain ⟨outer, put, inner, henter, hinner, he⟩ := Json.write_cons_eq_ok.mp (set_eq_ok.mp h)
    obtain ⟨item, put', w, henter', hw, rfl⟩ := Json.write_cons_eq_ok.mp hinner
    rcases Json.enter?_cases henter' with ⟨_, _, hs, _⟩ | ⟨_, items, hs, rfl, hitem, rfl⟩
    · cases hs
    cases hs
    obtain ⟨hget, rfl⟩ := Prod.mk.inj (Option.some.inj henter)
    cases he
    refine ⟨items, item, w, ?_, hitem, hw, rfl⟩
    cases hfound : Object.get? list data with
    | none =>
        rw [hfound] at hget
        cases hget
    | some found =>
        rw [hfound] at hget
        exact congrArg some hget
  · rintro ⟨items, item, w, hget, hitem, hw, rfl⟩
    have henter : Json.enter? (.key list) (.obj data) =
        some (.arr items, fun x => .obj (Object.insert list x data)) := by
      simp [Json.enter?, Json.record?, hget]
    have henter' : Json.enter? (.index index) (.arr items) =
        some (item, fun x => .arr (items.set index x)) := by
      simp [Json.enter?, hitem]
    exact set_eq_ok.mpr (Json.write_cons_eq_ok.mpr
      ⟨_, _, _, henter, Json.write_cons_eq_ok.mpr ⟨_, _, w, henter', hw, rfl⟩, rfl⟩)

end FieldPath

/-- A write at a place gives no list another length. -/
theorem Kind.Place.length_list {k : Kind} {p : FieldPath} {v : Json} {data after : Object}
    (hp : k.Place p) (hset : p.set v data = .ok after) {list : String}
    (hlist : list ∈ k.itemLists) : (after.list list).length = (data.list list).length := by
  have hitem : ∀ {name : String} {index : Nat} {steps : List Segment},
      FieldPath.set ⟨name, .index index :: steps⟩ v data = .ok after →
      (after.list list).length = (data.list list).length := by
    intro name index steps h
    obtain ⟨items, item, w, hget, _, _, rfl⟩ := FieldPath.set_item_eq_ok.mp h
    by_cases he : list = name
    · subst he
      simp [Object.list, Object.get?_insert_self, hget, Json.items]
    · rw [Object.list, Object.get?_insert_of_ne he, Object.list]
  cases hp with
  | @own key _ hown _ =>
      have hne : key ≠ list := fun he => hown (he ▸ hlist)
      have hget : after.get? list = data.get? list := FieldPath.get?_key_set hne hset
      rw [Object.list, hget, Object.list]
  | field => exact hitem hset
  | whole => exact hitem hset

/-! ## Entries at their places -/

theorem Object.list_eq {data : Object} {list : String} {items : List Json}
    (h : data.get? list = some (.arr items)) : data.list list = items := by
  rw [Object.list, h]
  rfl

/-- An item of a list is at its index in the list. -/
theorem Object.list_getElem? {data : Object} {list : String} {index : Nat} :
    (data.list list)[index]? = FieldPath.get? ⟨list, [.index index]⟩ data := by
  unfold Object.list FieldPath.get? FieldPath.segments
  rw [Json.follow?]
  cases data.get? list with
  | none => rfl
  | some v =>
      cases v with
      | arr items =>
          show items[index]? = Json.follow? [.index index] (.arr items)
          rw [Json.follow?]
          cases items[index]? <;> rfl
      | _ => rfl

/-- A field of an item is read from the item. -/
theorem Object.get?_item {data : Object} {list key : String} {index : Nat} {value : Json}
    (h : (data.list list)[index]? = some value) :
    FieldPath.get? ⟨list, [.index index, .key key]⟩ data = value.entries.get? key := by
  have hitem : Json.follow? [.key list, .index index] (.obj data) = some value :=
    list_getElem?.symm.trans h
  show Json.follow? ([.key list, .index index] ++ [.key key]) (.obj data) = _
  rw [Json.follow?_append, hitem, Option.bind_some, Json.follow?_cons]
  cases value with
  | obj entries =>
      show (get? key entries).bind some = get? key entries
      rw [Option.bind_fun_some]
  | _ => rfl

/-- An entry is bound to its place and shows what is stored there, unless it is the number of
columns. -/
theorem Kind.Fills.place {k : Kind} {data : Object} {s : Scope} {e : Entry}
    (h : k.Fills data s e) :
    (∃ q, s.place? e.target = some q ∧ k.Place q ∧ s.binding e.target = .path q.text ∧
      s.value e.target = (q.get? data).getD .null) ∨
    (k = .columns ∧ s = .component data ∧ e.target = .columnCount) := by
  cases h with
  | own he =>
      obtain ⟨key, htarget, hname, hown, hcount⟩ | ⟨hk, htarget⟩ := Entry.own_target he
      · refine Or.inl ⟨⟨key, []⟩, by rw [htarget]; rfl, .own hname hown hcount, ?_, ?_⟩
        · simp [htarget, Scope.binding, Scope.path, FieldPath.text]
        · rw [htarget, FieldPath.get?_key]
          rfl
      · exact Or.inr ⟨hk, rfl, htarget⟩
  | @item list index value e hlist hvalue he =>
      have hallowed : k.allowsItem e.target = true :=
        List.all_eq_true.mp (items_sound k).1 _ (use_mem he)
      cases htarget : e.target with
      | field key =>
          have hkey : IsName key ∧ k.hasWholeItems = false := by
            simpa [Kind.allowsItem, htarget] using hallowed
          refine Or.inl ⟨⟨list, [.index index, .key key]⟩, rfl, .field hlist hkey.2 hkey.1, ?_, ?_⟩
          · rw [FieldPath.text_itemField]
            rfl
          · rw [Object.get?_item hvalue]
            rfl
      | whole =>
          have hwhole : k.hasWholeItems = true := by
            simpa [Kind.allowsItem, htarget] using hallowed
          refine Or.inl ⟨⟨list, [.index index]⟩, rfl, .whole hlist hwhole, ?_, ?_⟩
          · rw [FieldPath.text_item]
            rfl
          · rw [← Object.list_getElem?, hvalue]
            rfl
      | columnCount => simp [Kind.allowsItem, htarget] at hallowed

/-- The path that is read from what an entry is bound to is its place. -/
theorem Kind.Fills.place_of_binding {k : Kind} {data : Object} {s : Scope} {e : Entry}
    (h : k.Fills data s e) {path : String} {p : FieldPath} (hb : (e.field s).binding = .path path)
    (hparse : FieldPath.parse path = .ok p) :
    s.place? e.target = some p ∧ k.Place p ∧ p.text = path := by
  obtain ⟨q, hq, hplace, hbinding, _⟩ | ⟨_, _, htarget⟩ := h.place
  · have htext : q.text = path := Binding.path.inj (hbinding.symm.trans hb)
    have he : p = q := FieldPath.eq_of_parse_text hplace.named (htext ▸ hparse)
    exact he ▸ ⟨hq, hplace, htext⟩
  · rw [Entry.field, htarget] at hb
    cases hb

theorem Entry.showsLike_of_agree {layout : List (Target × Control)} (h : agree layout = true)
    {a b : Target × Control} (ha : a ∈ layout) (hb : b ∈ layout) (htarget : a.1 = b.1) :
    a.2.showsLike b.2 = true := by
  have hab := List.all_eq_true.mp (List.all_eq_true.mp h a ha) b hb
  simpa [htarget] using hab

/-- What is written at a place is shown in the same way by all entries that are bound to it. -/
theorem Kind.Fills.showsLike {k : Kind} {data data' : Object} {s s' : Scope} {e e' : Entry}
    {q : FieldPath} (h : k.Fills data s e) (h' : k.Fills data' s' e')
    (hq : s.place? e.target = some q) (hq' : s'.place? e'.target = some q) :
    e.control.showsLike e'.control = true := by
  obtain ⟨htarget, ⟨_, _, rfl, rfl⟩ | ⟨list, index, _, _, rfl, rfl⟩⟩ := Scope.eq_of_place? hq hq'
  · cases h with
    | own he =>
        cases h' with
        | own he' =>
            exact Entry.showsLike_of_agree (entries_sound k).2 (List.mem_map_of_mem he)
              (List.mem_map_of_mem he') htarget
  · cases h with
    | item _ _ he =>
        cases h' with
        | item _ _ he' =>
            exact Entry.showsLike_of_agree (items_sound k).2 (use_mem he) (use_mem he') htarget

end PageBuilder
