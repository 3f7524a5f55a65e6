import PageBuilder.Proofs.Form.Display
import PageBuilder.Proofs.Form.Shape

/-!
# Editing through forms never gets stuck

A component is edited by edits that its form offers, where the form is made again after each edit.
`Edit.outcome_of_offers` says what becomes of an offered edit of well shaped data: it is carried
out, and the data stays well shaped, unless it asks for a number of columns outside the limits.
From this follows, by induction over the edits, that the data stays well shaped and that every edit
on the way can be carried out (`Form.never_stuck`).

The path to an item of a list is read from its text, and an index must fit in 64 bits there.  So a
list must not be longer than that for its last items to be found.
-/

namespace PageBuilder

/-! ## Edits that a form offers -/

/-- The edits that a form offers: what is entered into a field, the address of a file that was
uploaded, a new item for a list, and the removal of an item that may be removed. -/
inductive Form.Offers (form : Form) : Edit → Prop where
  | input {f : Field} {text : String} {e : Edit} : f ∈ form.fields → f.edit? text = some e →
      Offers form e
  | upload {f : Field} {path : String} (url : String) : f ∈ form.fields → f.control = .file →
      f.binding = .path path → Offers form (.set path (.str url))
  | add {s : Section} : s ∈ form.sections → Offers form s.add
  | remove {s : Section} {item : FormItem} {e : Edit} : s ∈ form.sections → item ∈ s.items →
      s.remove? item = some e → Offers form e

/-- The documents that edits of a component lead to, each offered by the form that the component
has then.  An edit that fails is among them. -/
inductive Document.Edited (start : Document) (id : Nat) : Document → Prop where
  | start : Edited start id start
  | edit {d : Document} {c : Component} {form : Form} {e : Edit} : Edited start id d →
      d.get? id = some c → Form.of? c = some form → form.Offers e →
      Edited start id (e.apply d id).2

/-- Whether the index of every item of a list fits in 64 bits, as it does in every list that can be
held in memory. -/
def Kind.Indexed (k : Kind) (data : Object) : Prop :=
  ∀ list ∈ k.itemLists, (data.list list).length ≤ 2 ^ 64

theorem Form.sections_of (k : Kind) (id : Nat) (data : Object) :
    (Form.of k id data).sections = k.lists.map (k.formSection data) := by
  simp [Form.sections, Form.of, List.filterMap_append, List.filterMap_map]

/-! ## What becomes of an offered edit -/

/-- What becomes of an edit of a component with some data. -/
inductive Edit.Outcome (k : Kind) (data : Object) (d : Document) (id : Nat) (e : Edit) : Prop where
  /-- It is carried out, and the data is well shaped. -/
  | done {after : Object} : e.apply d id = (.ok (), d.withData id after) → k.Shaped after →
      (∀ n, e = .setColumnCount n → 1 ≤ n ∧ n ≤ 4) → Outcome k data d id e
  /-- It asks for a number of columns outside the limits. -/
  | refused {n : Nat} {error : Error} : e = .setColumnCount n → ¬(1 ≤ n ∧ n ≤ 4) →
      e.apply d id = (.error error, d) → Outcome k data d id e
  /-- Its path cannot be read. -/
  | unread {error : Error} : ¬k.Indexed data → e.apply d id = (.error error, d) →
      Outcome k data d id e

namespace Edit

variable {k : Kind} {d : Document} {id : Nat} {c : Component} {e : Edit}

/-- The paths of the entries of a form can be read if the indexes fit. -/
theorem parse_place (h : k.Indexed c.data) {s : Scope} {entry : Entry}
    (hfills : k.Fills c.data s entry) {p : FieldPath} (hp : s.place? entry.target = some p)
    (hplace : k.Place p) : FieldPath.parse p.text = .ok p := by
  refine FieldPath.parse_text hplace.named fun n hn => ?_
  cases hfills with
  | own _ =>
      cases htarget : entry.target <;> rw [htarget] at hp <;> cases hp
      cases hn
  | @item _ index _ _ hlist hvalue _ =>
      have hindex := (List.getElem?_eq_some_iff.mp hvalue).1
      have hlength := h _ hlist
      have he : n = index := by
        cases htarget : entry.target <;> rw [htarget] at hp <;> cases hp
        · simpa using hn
        · simpa using hn
      unfold maxWord
      omega

theorem parse_list {spec : ListSpec} (h : spec ∈ k.lists) :
    FieldPath.parse spec.name = .ok ⟨spec.name, []⟩ := by
  have hname := (Kind.Place.isName_of_mem (mem_itemLists_of_mem h)).1
  have htext : FieldPath.text ⟨spec.name, []⟩ = spec.name := by simp [FieldPath.text]
  have hparse : FieldPath.parse (FieldPath.text ⟨spec.name, []⟩) = .ok ⟨spec.name, []⟩ :=
    FieldPath.parse_text ⟨hname, fun _ h => by cases h⟩ fun _ h => by cases h
  rwa [htext] at hparse

/-- A write at the path of a field is carried out if the path can be read. -/
theorem outcome_patch (hc : d.get? id = some c) (hs : k.Shaped c.data) {f : Field}
    (hf : f ∈ (Form.of k c.id c.data).fields) {path : String} (hb : f.binding = .path path)
    {stored : Json} (happly : e.apply d id = d.patch id path stored)
    (hne : ∀ n, e ≠ .setColumnCount n) : Outcome k c.data d id e := by
  obtain ⟨s, entry, hfills, rfl⟩ := mem_fields_of.mp hf
  cases hparse : FieldPath.parse path with
  | ok p =>
      obtain ⟨hp, hplace, _⟩ := hfills.place_of_binding hb hparse
      obtain ⟨after, hset⟩ := hs.exists_set hfills hp hplace stored
      refine .done (happly.trans ?_) (hs.set hplace hset) fun n hn => absurd hn (hne n)
      exact Document.updateAt_of_ok hc hparse (by rw [hset]; rfl)
  | error error =>
      -- A path that cannot be read has an index that does not fit.
      refine .unread (fun h => ?_) (happly.trans (by rw [Document.patch, Document.updateAt, hparse]))
      obtain ⟨p, hp, hplace, hbinding, _⟩ | ⟨_, _, htarget⟩ := hfills.place
      · have htext : p.text = path := Binding.path.inj (hbinding.symm.trans hb)
        rw [← htext, parse_place h hfills hp hplace] at hparse
        cases hparse
      · rw [Entry.field, htarget] at hb
        cases hb

/-- A list takes a new item. -/
theorem outcome_append (hc : d.get? id = some c) (hk : c.kind? = some k) (hs : k.Shaped c.data)
    {spec : ListSpec} (hspec : spec ∈ k.lists) :
    Outcome k c.data d id (.append spec.name) := by
  obtain ⟨item, hitem, hobject⟩ := Kind.exists_defaultItem hspec c.data
  obtain ⟨n, after, happend, hafter⟩ := hs.append hspec hobject
  have hresult : d.appendDefault id spec.name = (.ok n, d.withData id after) :=
    (Document.appendDefault_of_item hc hk hitem).trans
      (Document.updateAt_of_ok hc (parse_list hspec) happend)
  refine .done ?_ hafter (fun _ h => by cases h)
  rw [apply, hresult]
  rfl

/-- A list that is longer than it must be loses an item. -/
theorem outcome_remove (hc : d.get? id = some c) (hs : k.Shaped c.data) {spec : ListSpec}
    (hspec : spec ∈ k.lists) {index : Nat} (hindex : index < (c.data.list spec.name).length)
    (hmin : minItems < (c.data.list spec.name).length) :
    Outcome k c.data d id (.remove spec.name index) := by
  obtain ⟨item, after, hremove, hafter⟩ := hs.removeItem hspec hindex hmin
  have hresult : d.removeItem id spec.name index = (.ok item, d.withData id after) :=
    Document.updateAt_of_ok hc (parse_list hspec) hremove
  refine .done ?_ hafter (fun _ h => by cases h)
  rw [apply, hresult]
  rfl

/-- The number of columns is changed within the limits. -/
theorem outcome_setColumnCount (hc : d.get? id = some c) (hs : Kind.Shaped .columns c.data)
    (n : Nat) : Outcome .columns c.data d id (.setColumnCount n) := by
  by_cases hn : 1 ≤ n ∧ n ≤ 4
  · refine .done ?_ (hs.withColumns hn.1 hn.2) ?_
    · rw [apply, Document.setColumnCount, if_pos (Document.isColumnCount_iff.mpr hn), Document.updateData, hc]
      rfl
    · rintro _ ⟨⟩
      exact hn
  · have hrefused : d.setColumnCount id n = (.error (.invalidPath (.columnCount n)), d) := by
      rw [Document.setColumnCount, if_neg (mt Document.isColumnCount_iff.mp hn)]
    exact .refused rfl hn hrefused

/-- What becomes of the edits that a form offers. -/
theorem outcome_of_offers (hc : d.get? id = some c) (hk : c.kind? = some k) (hs : k.Shaped c.data)
    (he : (Form.of k c.id c.data).Offers e) : Outcome k c.data d id e := by
  cases he with
  | @input f text _ hf hedit =>
      cases hb : f.binding with
      | path path =>
          obtain ⟨stored, hstores⟩ := Field.stores_of_edit? hb hedit
          refine outcome_patch hc hs hf hb (hstores.apply d id) ?_
          rintro n rfl
          cases hstores
      | columnCount =>
          obtain ⟨s, entry, hfills, rfl⟩ := mem_fields_of.mp hf
          rw [Field.edit?, hb] at hedit
          obtain ⟨n, _, rfl⟩ := Option.map_eq_some_iff.mp hedit
          obtain ⟨_, _, _, hbinding, _⟩ | ⟨rfl, _⟩ := hfills.place
          · cases hbinding.symm.trans hb
          · exact outcome_setColumnCount hc hs n
  | upload url hf _ hb => exact outcome_patch hc hs hf hb rfl fun _ h => by cases h
  | add h =>
      rw [Form.sections_of] at h
      obtain ⟨spec, hspec, rfl⟩ := List.mem_map.mp h
      exact outcome_append hc hk hs hspec
  | remove h hitem hremove =>
      rw [Form.sections_of] at h
      obtain ⟨spec, hspec, rfl⟩ := List.mem_map.mp h
      obtain ⟨index, hindex, rfl⟩ := List.mem_mapIdx.mp hitem
      obtain ⟨hmin, he⟩ := Option.ite_none_right_eq_some.mp hremove
      cases he
      exact outcome_remove hc hs hspec hindex (of_decide_eq_true hmin)

end Edit

/-! ## Runs of edits -/

namespace Form

variable {k : Kind} {start d : Document} {id : Nat}

/-- Edits that the form of a component offers keep its data well shaped. -/
theorem shaped_of_edited {c : Component} (hstart : start.get? id = some c) (hk : c.kind? = some k)
    (hs : k.Shaped c.data) (hd : start.Edited id d) :
    ∃ data, d.get? id = some { c with data } ∧ k.Shaped data := by
  induction hd with
  | start => exact ⟨c.data, hstart, hs⟩
  | edit _ hc hform he ih =>
      obtain ⟨data, hdata, hshaped⟩ := ih
      cases hc.symm.trans hdata
      obtain ⟨k', hk', rfl⟩ := Option.map_eq_some_iff.mp hform
      cases hk.symm.trans hk'
      -- An edit that fails leaves the document as it was, so only one that is done matters.
      cases Edit.outcome_of_offers hdata hk hshaped he with
      | done happly hafter =>
          rw [happly]
          exact ⟨_, Document.get?_withData hdata _, hafter⟩
      | refused _ _ happly | unread _ happly =>
          rw [happly]
          exact ⟨data, hdata, hshaped⟩

/-- Editing a new component through its forms never gets stuck.  However many edits were made, its
data is well shaped, and every edit that its form offers succeeds, if only it asks for no number of
columns outside the limits. -/
theorem never_stuck (hstart : start.get? id = some ⟨id, k.name, k.template⟩)
    (hd : start.Edited id d) :
    ∃ data form, d.get? id = some ⟨id, k.name, data⟩ ∧
      Form.of? ⟨id, k.name, data⟩ = some form ∧ k.Shaped data ∧
      (k.Indexed data → ∀ e, form.Offers e →
        ((∃ d', e.apply d id = (.ok (), d')) ↔
          ∀ n, e = .setColumnCount n → 1 ≤ n ∧ n ≤ 4)) := by
  have hk : ∀ data, (Component.mk id k.name data).kind? = some k := fun _ => k.ofName?_name
  obtain ⟨data, hdata, hshaped⟩ := shaped_of_edited hstart (hk _) k.shaped_template hd
  refine ⟨data, of k id data, hdata, ?_, hshaped, fun hindexed e he => ?_⟩
  · rw [of?, hk]
    rfl
  · cases Edit.outcome_of_offers hdata (hk data) hshaped he with
    | done happly _ hcount => exact ⟨fun _ => hcount, fun _ => ⟨_, happly⟩⟩
    | refused heq hn happly =>
        refine ⟨?_, fun h => absurd (h _ heq) hn⟩
        rintro ⟨d', h⟩
        cases happly.symm.trans h
    | unread hnot _ => exact absurd hindexed hnot

/-- A tab is added to the tabs that are there, and removed again. -/
theorem never_stuck_tabs :
    ∃ data d', ((Edit.append "tabs").apply ((Document.empty 1).add "tabs").2 1).2.get? 1 =
        some ⟨1, "tabs", data⟩ ∧
      Kind.tabs.Shaped data ∧ (data.list "tabs").length = 4 ∧
      (Edit.remove "tabs" 3).apply
        ((Edit.append "tabs").apply ((Document.empty 1).add "tabs").2 1).2 1 = (.ok (), d') := by
  have hstart : ((Document.empty 1).add "tabs").2.get? 1 =
      some ⟨1, Kind.tabs.name, Kind.tabs.template⟩ := rfl
  have hadd : (of .tabs 1 Kind.tabs.template).Offers (.append "tabs") :=
    .add (s := Kind.tabs.formSection Kind.tabs.template ⟨"tabs", "Tabs", "Tab"⟩)
      (List.mem_singleton.mpr rfl)
  obtain ⟨data, form, hdata, hform, hshaped, hsucceeds⟩ :=
    never_stuck hstart (.edit .start hstart rfl hadd)
  have hlength : (data.list "tabs").length = 4 := by
    cases Option.some.inj hdata
    rfl
  have hindexed : Kind.tabs.Indexed data := by
    intro list hlist
    obtain rfl : list = "tabs" := List.mem_singleton.mp hlist
    rw [hlength]
    decide
  have hremove : form.Offers (.remove "tabs" 3) := by
    cases Option.some.inj hdata
    cases hform
    exact .remove (List.mem_singleton.mpr rfl) (List.mem_of_getElem? (i := 3) rfl) rfl
  obtain ⟨d', hd'⟩ := (hsucceeds hindexed _ hremove).mpr fun n h => by cases h
  exact ⟨data, d', hdata, hshaped, hlength, hd'⟩

end Form

end PageBuilder
