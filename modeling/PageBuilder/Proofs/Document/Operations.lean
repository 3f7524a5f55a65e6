import PageBuilder.Document.Data
import PageBuilder.Proofs.Document.Numbering

/-!
# What the operations on a document do

Each operation in terms of the documents before and after it.  An operation on the data of a
component *writes* (`Writes`): it fails and leaves the document, or succeeds and changes the data
of the component it names, and nothing else.  Adding, moving and removing are described by one
lemma each (`add_cases`, `move_cases`, `remove_cases`), and all further facts about operations
follow from these.
-/

namespace PageBuilder.Document

/-! ## Data of one component -/

/-- The document with other data in one component. -/
def withData (d : Document) (id : Nat) (data : Object) : Document :=
  { d with components := replaceData id data d.components }

theorem map_id_replaceData (id : Nat) (data : Object) (cs : List Component) :
    (replaceData id data cs).map Component.id = cs.map Component.id := by
  induction cs with
  | nil => rfl
  | cons c rest ih =>
      by_cases h : c.id = id
      · simp [replaceData, h]
      · simp [replaceData, h, ih]

@[simp] theorem ids_withData (d : Document) (id : Nat) (data : Object) :
    (d.withData id data).ids = d.ids :=
  map_id_replaceData id data d.components

@[simp] theorem length_withData (d : Document) (id : Nat) (data : Object) :
    (d.withData id data).components.length = d.components.length := by
  rw [← length_ids, ids_withData, length_ids]

/-- A component of the document with other data is one that was there, or has the new data. -/
theorem mem_replaceData {id : Nat} {data : Object} {cs : List Component} {x : Component}
    (h : x ∈ replaceData id data cs) : x ∈ cs ∨ ∃ c ∈ cs, c.id = id ∧ x = { c with data } := by
  induction cs with
  | nil => cases h
  | cons c rest ih =>
      by_cases hc : c.id = id
      · simp only [replaceData, hc, if_true] at h
        rcases List.mem_cons.mp h with he | hr
        · exact Or.inr ⟨c, List.mem_cons_self, hc, by rw [he, hc]⟩
        · exact Or.inl (List.mem_cons_of_mem c hr)
      · simp only [replaceData, hc, if_false] at h
        rcases List.mem_cons.mp h with he | hr
        · exact Or.inl (he ▸ List.mem_cons_self)
        · rcases ih hr with hin | hnew
          · exact Or.inl (List.mem_cons_of_mem c hin)
          · obtain ⟨old, hold, hid, hx⟩ := hnew
            exact Or.inr ⟨old, List.mem_cons_of_mem c hold, hid, hx⟩

theorem get?_withData {d : Document} {id : Nat} {c : Component} (h : d.get? id = some c)
    (data : Object) : (d.withData id data).get? id = some { c with data } := by
  have hfind : ∀ cs : List Component, cs.find? (·.id == id) = some c →
      (replaceData id data cs).find? (·.id == id) = some { c with data } := by
    intro cs
    induction cs with
    | nil => exact fun h => by cases h
    | cons x rest ih =>
        intro h
        by_cases hx : x.id = id
        · have hc : x = c := by simpa [List.find?_cons, hx] using h
          simp [replaceData, hx, ← hc]
        · have hrest : rest.find? (·.id == id) = some c := by simpa [List.find?_cons, hx] using h
          simp [replaceData, hx, ih hrest]
  exact hfind d.components h

/-- Of two replacements of the data of a component the second wins. -/
theorem withData_withData (d : Document) (id : Nat) (data other : Object) :
    (d.withData id data).withData id other = d.withData id other := by
  have hreplace : ∀ cs : List Component,
      replaceData id other (replaceData id data cs) = replaceData id other cs := by
    intro cs
    induction cs with
    | nil => rfl
    | cons c rest ih =>
        by_cases hc : c.id = id
        · simp [replaceData, hc]
        · simp [replaceData, hc, ih]
  simp only [withData, hreplace]

/-- With the data that it has a component stays as it is. -/
theorem withData_self {d : Document} {id : Nat} {c : Component} (h : d.get? id = some c) :
    d.withData id c.data = d := by
  have hreplace : ∀ cs : List Component, cs.find? (·.id == id) = some c →
      replaceData id c.data cs = cs := by
    intro cs
    induction cs with
    | nil => exact fun h => by cases h
    | cons x rest ih =>
        intro h
        by_cases hx : x.id = id
        · obtain rfl : x = c := by simpa [List.find?_cons, hx] using h
          rw [replaceData, if_pos hx]
        · have hrest : rest.find? (·.id == id) = some c := by simpa [List.find?_cons, hx] using h
          simp [replaceData, hx, ih hrest]
  rw [withData, hreplace d.components h]

/-- Only the component at the position of the id takes the new data. -/
theorem getElem?_replaceData (id : Nat) (data : Object) (cs : List Component) : ∀ i : Nat,
    (replaceData id data cs)[i]? =
      cs[i]?.map fun c => if position? id cs = some i then { c with data } else c := by
  induction cs with
  | nil => exact fun _ => rfl
  | cons c rest ih =>
      intro i
      by_cases hc : c.id = id
      · cases i with
        | zero => simp [replaceData, position?, List.findIdx?_cons, hc]
        | succ i => simp [replaceData, position?, List.findIdx?_cons, hc]
      · cases i with
        | zero => simp [replaceData, position?, List.findIdx?_cons, hc]
        | succ i =>
            have hpos : position? id (c :: rest) = some (i + 1) ↔ position? id rest = some i := by
              simp [position?, List.findIdx?_cons, hc]
            simp only [replaceData, hc, if_false, List.getElem?_cons_succ, ih i, hpos]

/-- How an operation on the data of one component ends.  `change` relates the data before, what is
returned, and the data after. -/
inductive Writes {α : Type} (d : Document) (id : Nat) (change : Object → α → Object → Prop) :
    Except Error α × Document → Prop where
  | failed (e : Error) : Writes d id change (.error e, d)
  | written {c : Component} {a : α} {data : Object} :
      d.get? id = some c → change c.data a data →
      Writes d id change (.ok a, d.withData id data)

theorem Writes.mono {α : Type} {d : Document} {id : Nat} {P Q : Object → α → Object → Prop}
    {r : Except Error α × Document} (h : Writes d id P r)
    (himp : ∀ before a after, P before a after → Q before a after) : Writes d id Q r := by
  cases h with
  | failed e => exact .failed e
  | written hc hp => exact .written hc (himp _ _ _ hp)

theorem updateData_writes {α : Type} (d : Document) (id : Nat)
    (f : Object → Except Error (α × Object)) :
    Writes d id (fun before a after => f before = .ok (a, after)) (d.updateData id f) := by
  cases hc : d.get? id with
  | none =>
      rw [updateData, hc]
      exact .failed _
  | some c =>
      cases hf : f c.data with
      | error e =>
          simp only [updateData, hc, hf]
          exact .failed e
      | ok r =>
          simp only [updateData, hc, hf]
          exact .written hc hf

theorem updateAt_writes {α : Type} (d : Document) (id : Nat) (path : String)
    (f : FieldPath → Object → Except Error (α × Object)) :
    Writes d id
      (fun before a after => ∃ p, FieldPath.parse path = .ok p ∧ f p before = .ok (a, after))
      (d.updateAt id path f) := by
  cases hp : FieldPath.parse path with
  | error e =>
      rw [updateAt, hp]
      exact .failed e
  | ok p =>
      rw [updateAt, hp]
      exact (d.updateData_writes id (f p)).mono fun _ _ _ h => ⟨p, rfl, h⟩

/-- What can be done to the data of a component can be done to the document. -/
theorem updateAt_of_ok {α : Type} {d : Document} {id : Nat} {c : Component} {path : String}
    {p : FieldPath} {f : FieldPath → Object → Except Error (α × Object)} {a : α} {after : Object}
    (hc : d.get? id = some c) (hp : FieldPath.parse path = .ok p)
    (hf : f p c.data = .ok (a, after)) : d.updateAt id path f = (.ok a, d.withData id after) := by
  simp only [updateAt, hp, updateData, hc, hf]
  rfl

/-- What was done to the document was done to the data of the component. -/
theorem updateAt_eq_ok_iff {α : Type} {d d' : Document} {id : Nat} {c : Component} {path : String}
    {p : FieldPath} {f : FieldPath → Object → Except Error (α × Object)} {a : α}
    (hc : d.get? id = some c) (hp : FieldPath.parse path = .ok p) :
    d.updateAt id path f = (.ok a, d') ↔
      ∃ after, f p c.data = .ok (a, after) ∧ d' = d.withData id after := by
  constructor
  · intro h
    have hw := d.updateAt_writes id path f
    rw [h] at hw
    cases hw with
    | written hc' hdata =>
        obtain ⟨q, hq, hf⟩ := hdata
        cases hc.symm.trans hc'
        cases hp.symm.trans hq
        exact ⟨_, hf, rfl⟩
  · rintro ⟨after, hf, rfl⟩
    exact updateAt_of_ok hc hp hf

/-- Writing a field sets it in the data of the component. -/
theorem patch_writes (d : Document) (id : Nat) (path : String) (value : Json) :
    Writes d id
      (fun before _ after => ∃ p, FieldPath.parse path = .ok p ∧ p.set value before = .ok after)
      (d.patch id path value) := by
  refine (d.updateAt_writes id path _).mono ?_
  rintro before a after ⟨p, hp, h⟩
  refine ⟨p, hp, ?_⟩
  cases hs : p.set value before with
  | error e => rw [hs] at h; cases h
  | ok data => rw [hs] at h; cases h; rfl

theorem append_writes (d : Document) (id : Nat) (list : String) (item : Json) :
    Writes d id
      (fun before n after =>
        ∃ p, FieldPath.parse list = .ok p ∧ p.append item before = .ok (n, after))
      (d.append id list item) :=
  d.updateAt_writes id list _

theorem defaultItem_eq_ok {d : Document} {id : Nat} {list : String} {item : Json}
    (h : d.defaultItem id list = .ok item) :
    ∃ c kind, d.get? id = some c ∧ Kind.defaultItem kind list c.data = some item := by
  unfold defaultItem at h
  cases hc : d.get? id with
  | none => rw [hc] at h; cases h
  | some c =>
      simp only [hc] at h
      cases hk : c.kind? with
      | none => rw [hk] at h; cases h
      | some kind =>
          simp only [hk] at h
          cases hitem : kind.defaultItem list c.data with
          | none => rw [hitem] at h; cases h
          | some found =>
              rw [hitem] at h
              cases h
              exact ⟨c, kind, rfl, hitem⟩

/-- The new item that the catalog has for the data of a component is appended. -/
theorem appendDefault_of_item {d : Document} {id : Nat} {c : Component} {kind : Kind}
    {list : String} {item : Json} (hc : d.get? id = some c) (hk : c.kind? = some kind)
    (hitem : kind.defaultItem list c.data = some item) :
    d.appendDefault id list = d.append id list item := by
  have hdefault : d.defaultItem id list = .ok item := by
    simp only [defaultItem, hc, hk, hitem]
  rw [appendDefault, hdefault]

/-- Appending a new item appends an item that the catalog has for the data that is there. -/
theorem appendDefault_writes (d : Document) (id : Nat) (list : String) :
    Writes d id
      (fun before n after =>
        ∃ p kind item, FieldPath.parse list = .ok p ∧
          Kind.defaultItem kind list before = some item ∧ p.append item before = .ok (n, after))
      (d.appendDefault id list) := by
  unfold appendDefault
  cases hi : d.defaultItem id list with
  | error e => exact .failed e
  | ok item =>
      obtain ⟨c, kind, hc, hitem⟩ := defaultItem_eq_ok hi
      have hw := d.append_writes id list item
      simp only
      generalize d.append id list item = r at hw
      cases hw with
      | failed e => exact .failed e
      | written hc' happ =>
          -- The item was made from the same data that it is appended to.
          rw [hc] at hc'
          cases hc'
          obtain ⟨p, hp, hdata⟩ := happ
          exact .written hc ⟨p, kind, item, hp, hitem, hdata⟩

theorem removeItem_writes (d : Document) (id : Nat) (list : String) (index : Nat) :
    Writes d id
      (fun before item after =>
        ∃ p, FieldPath.parse list = .ok p ∧ p.removeItem index before = .ok (item, after))
      (d.removeItem id list index) :=
  d.updateAt_writes id list _

theorem isColumnCount_iff {count : Nat} : isColumnCount count ↔ 1 ≤ count ∧ count ≤ 4 := by
  rw [isColumnCount, Bool.and_eq_true, decide_eq_true_iff, decide_eq_true_iff]
  rfl

theorem setColumnCount_writes (d : Document) (id count : Nat) :
    Writes d id (fun before _ after => isColumnCount count ∧ after = withColumns count before)
      (d.setColumnCount id count) := by
  cases hcount : isColumnCount count with
  | false =>
      rw [setColumnCount, hcount]
      exact .failed _
  | true =>
      rw [setColumnCount, hcount, if_pos rfl]
      refine (d.updateData_writes id _).mono ?_
      rintro before a after h
      cases h
      exact ⟨rfl, rfl⟩

/-! ## Adding -/

/-- A component is added only below the limit and of a kind in the catalog; it takes the next free
id, after all ids were given anew if that is the last word. -/
theorem add_cases (d : Document) (typeName : String) :
    (∃ e, d.add typeName = (.error e, d)) ∨
    ∃ kind, Kind.ofName? typeName = some kind ∧ d.components.length < d.limit ∧
      ∃ numbered, numbered = (if d.nextId = maxWord then d.renumber else d) ∧
        d.add typeName =
          (.ok numbered.nextId,
            { numbered with
              components := numbered.components ++ [⟨numbered.nextId, kind.name, kind.template⟩]
              nextId := numbered.nextId + 1 }) := by
  by_cases hlimit : d.limit ≤ d.components.length
  · exact Or.inl ⟨_, by rw [add, if_pos hlimit]⟩
  · cases hkind : Kind.ofName? typeName with
    | none => exact Or.inl ⟨_, by rw [add, if_neg hlimit, hkind]⟩
    | some kind =>
        refine Or.inr ⟨kind, rfl, by omega, _, rfl, ?_⟩
        rw [add, if_neg hlimit, hkind]

/-- An addition hands out the next id, or numbers all components anew if that is the last word. -/
theorem id_of_add {d d' : Document} {typeName : String} {id : Nat}
    (h : d.add typeName = (.ok id, d')) :
    id = if d.nextId = maxWord then d.components.length + 1 else d.nextId := by
  obtain ⟨e, he⟩ | ⟨_, _, _, numbered, hnumbered, hcase⟩ := d.add_cases typeName
  · rw [he] at h
    cases h
  · rw [hcase] at h
    cases h
    rw [hnumbered]
    split <;> rfl

/-! ## Moving -/

theorem swapAt_perm {α : Type} (n : Nat) (xs : List α) : (swapAt n xs).Perm xs := by
  fun_induction swapAt n xs with
  | case1 a b rest => exact List.Perm.swap a b rest
  | case2 n a rest ih => exact ih.cons a
  | case3 => exact List.Perm.refl _

/-- The position after an exchange of the items at `k` and the next one. -/
def exchanged (k i : Nat) : Nat := if i = k then k + 1 else if i = k + 1 then k else i

theorem getElem?_swapAt {α : Type} (k : Nat) (xs : List α) : k + 1 < xs.length →
    ∀ i : Nat, (swapAt k xs)[i]? = xs[exchanged k i]? := by
  fun_induction swapAt k xs with
  | case1 a b rest =>
      intro _ i
      match i with
      | 0 | 1 | _ + 2 => simp [exchanged]
  | case2 k a rest ih =>
      intro hlength i
      have hrest := ih (by simpa using hlength)
      cases i with
      | zero => simp [exchanged]
      | succ i =>
          rw [List.getElem?_cons_succ, hrest i, ← List.getElem?_cons_succ (a := a)]
          congr 1
          simp only [exchanged]
          split_ifs <;> omega
  | case3 k xs hfew hmany =>
      intro hlength
      cases xs with
      | nil => cases hlength
      | cons a rest =>
          cases k with
          | succ k => exact absurd rfl (hmany k a rest rfl)
          | zero =>
              cases rest with
              | nil => simp at hlength
              | cons b rest => exact absurd rfl (hfew a b rest rfl)

/-- A move exchanges two components, or leaves the document. -/
theorem move_cases (d : Document) (id : Nat) (direction : Direction) :
    d.move id direction = (false, d) ∨
    ∃ index, d.move id direction = (true, { d with components := swapAt index d.components }) := by
  unfold move
  cases (position? id d.components).bind fun index =>
      swapPosition? direction index d.components.length with
  | none => exact Or.inl rfl
  | some index => exact Or.inr ⟨index, rfl⟩

/-! ## Selecting -/

/-- A selection keeps the components. -/
theorem components_select (d : Document) (id : Option Nat) :
    (d.select id).2.components = d.components := by
  cases id with
  | none => rfl
  | some id =>
      rw [select]
      split <;> rfl

/-! ## Removing -/

/-- A removal takes away the component with the id, if there is one, and its selection. -/
theorem remove_cases (d : Document) (id : Nat) :
    d.remove id = (none, d) ∨
    ∃ c, d.get? id = some c ∧
      d.remove id =
        (some c,
          { d with
            components := d.components.eraseP (·.id == id)
            selected := if d.selected = some id then none else d.selected }) := by
  unfold remove
  cases hc : d.get? id with
  | none => exact Or.inl rfl
  | some c => exact Or.inr ⟨c, rfl, rfl⟩

end PageBuilder.Document
