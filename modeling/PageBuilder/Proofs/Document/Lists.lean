import PageBuilder.Proofs.Catalog.Values
import PageBuilder.Proofs.Document.Operations
import PageBuilder.Proofs.Path.Lens

/-!
# Lists that grow and shrink

Appending to the list at a path and removing from it are settings of the path, to the list with one
item more (`FieldPath.append_eq_ok_iff`) or one item less (`FieldPath.removeItem_eq_ok_iff`).  That
an append writes an empty list first where nothing is does not show, since of two settings of one
place the second wins.  So what is known of settings holds of them: when they succeed, and what is
read afterwards.  `Document.lists_exact` says it of the components of a document.
-/

namespace PageBuilder

namespace FieldPath

variable {p : FieldPath} {data after : Object} {items : List Json} {item : Json} {n index : Nat}

/-- The items of the list at a path; none where there is no list. -/
def itemsAt (p : FieldPath) (data : Object) : List Json := ((p.get? data).map Json.items).getD []

theorem itemsAt_of_get? (h : p.get? data = some (.arr items)) : p.itemsAt data = items := by
  rw [itemsAt, h]
  rfl

theorem isVacant_iff :
    p.isVacant data = true ↔ p.get? data = none ∨ p.get? data = some .null := by
  unfold isVacant
  cases p.get? data with
  | none => simp
  | some v => cases v <;> simp

/-- What is read at a path can be written there. -/
theorem writable_of_get? {v : Json} (h : p.get? data = some v) : p.Writable data := by
  obtain ⟨put, hput⟩ := get?_eq_some_iff_focus?.mp h
  exact exists_set_iff.mp ⟨_, set_of_focus? hput v⟩

/-! ## Appending and removing as settings -/

/-- A list is found with a way to set other items in its place. -/
theorem exists_focusList (h : p.get? data = some (.arr items)) :
    ∃ put, p.focusList data = .ok (items, put) ∧
      ∀ others, p.set (.arr others) data = .ok (put others) := by
  obtain ⟨put, hput⟩ := get?_eq_some_iff_focus?.mp h
  exact ⟨fun others => put (.arr others), by rw [focusList, hput],
    fun others => set_of_focus? hput (.arr others)⟩

/-- Only a list is found as one. -/
theorem get?_of_focusList {put : List Json → Object} (h : p.focusList data = .ok (items, put)) :
    p.get? data = some (.arr items) := by
  unfold focusList at h
  split at h
  next items' put' hfocus =>
    cases h
    exact get?_eq_some_iff_focus?.mpr ⟨_, hfocus⟩
  next => cases h

/-- Appending to a list sets the list with the item at its end. -/
theorem append_of_get? (h : p.get? data = some (.arr items)) :
    p.append item data = .ok (n, after) ↔
      n = items.length + 1 ∧ p.set (.arr (items ++ [item])) data = .ok after := by
  obtain ⟨put, hfocus, hset⟩ := exists_focusList h
  have hvacant : p.isVacant data = false := by rw [isVacant, h]
  rw [append, if_neg (by simp [hvacant])]
  simp [hfocus, hset, eq_comm]

/-- Appending where nothing is sets a list of one item. -/
theorem append_of_isVacant (h : p.isVacant data = true) :
    p.append item data = .ok (n, after) ↔ n = 1 ∧ p.set (.arr [item]) data = .ok after := by
  rw [append, if_pos h]
  cases hmade : p.set (.arr []) data with
  | error e =>
      have hnone : ¬∃ last, p.set (.arr [item]) data = .ok last := by
        rw [exists_set_iff, ← exists_set_iff (v := .arr []), hmade]
        simp
      constructor
      · intro he
        cases he
      · rintro ⟨_, hset⟩
        exact absurd ⟨after, hset⟩ hnone
  | ok start =>
      obtain ⟨put, hfocus, hset⟩ := exists_focusList (get?_set hmade)
      obtain ⟨last, hlast, hdata⟩ := set_set hmade (.arr [item])
      have he : put [item] = last := by simpa [hset] using hlast
      rw [hdata, ← he]
      simp [hfocus, eq_comm]

/-- An append sets the list with the item at its end, where a list is, or nothing. -/
theorem append_eq_ok_iff :
    p.append item data = .ok (n, after) ↔
      ((∃ items, p.get? data = some (.arr items)) ∨ p.isVacant data = true) ∧
        n = (p.itemsAt data).length + 1 ∧
        p.set (.arr (p.itemsAt data ++ [item])) data = .ok after := by
  by_cases hlist : ∃ items, p.get? data = some (.arr items)
  · obtain ⟨items, hget⟩ := hlist
    rw [append_of_get? hget, itemsAt_of_get? hget]
    simp [hget]
  · by_cases hvacant : p.isVacant data = true
    · have hitems : p.itemsAt data = [] := by
        rcases isVacant_iff.mp hvacant with h | h <;> rw [itemsAt, h] <;> rfl
      rw [append_of_isVacant hvacant, hitems]
      simp [hvacant]
    · constructor
      · intro h
        rw [append, if_neg hvacant, ok_bind] at h
        obtain ⟨found, hfound, _⟩ := bind_eq_ok h
        exact absurd ⟨_, get?_of_focusList hfound⟩ hlist
      · rintro ⟨hor, _⟩
        exact absurd hor (not_or.mpr ⟨hlist, hvacant⟩)

/-- A removal sets the list without the item, where there are two items or more. -/
theorem removeItem_eq_ok_iff :
    p.removeItem index data = .ok (item, after) ↔
      ∃ items, p.get? data = some (.arr items) ∧ items[index]? = some item ∧
        2 ≤ items.length ∧ p.set (.arr (items.eraseIdx index)) data = .ok after := by
  constructor
  · intro h
    obtain ⟨⟨items, put⟩, hfocus, h⟩ := bind_eq_ok h
    have hget := get?_of_focusList hfocus
    obtain ⟨put', hfocus', hset⟩ := exists_focusList hget
    cases hfocus.symm.trans hfocus'
    simp only at h
    split at h
    next => cases h
    next found hfound =>
      split at h
      next => cases h
      next hmin =>
        cases h
        exact ⟨items, hget, hfound, Nat.lt_of_not_le hmin, hset _⟩
  · rintro ⟨items, hget, hitem, hlength, hset⟩
    obtain ⟨put, hfocus, hput⟩ := exists_focusList hget
    obtain rfl : put (items.eraseIdx index) = after := by simpa [hput] using hset
    rw [removeItem, hfocus, ok_bind]
    simp only [hitem]
    exact if_neg (Nat.not_le_of_lt hlength)

/-! ## When they succeed -/

theorem exists_append_iff (item : Json) :
    (∃ n after, p.append item data = .ok (n, after)) ↔
      (∃ items, p.get? data = some (.arr items)) ∨
        (p.get? data = none ∨ p.get? data = some .null) ∧ p.Writable data := by
  simp only [append_eq_ok_iff, isVacant_iff]
  constructor
  · rintro ⟨_, after, hor, _, hset⟩
    exact hor.imp id fun hvacant => ⟨hvacant, exists_set_iff.mp ⟨after, hset⟩⟩
  · intro h
    have hwritable : p.Writable data := by
      rcases h with ⟨items, hget⟩ | ⟨_, hwritable⟩
      · exact writable_of_get? hget
      · exact hwritable
    obtain ⟨after, hset⟩ := exists_set_iff.mpr hwritable
    exact ⟨_, after, h.imp id And.left, rfl, hset⟩

theorem exists_removeItem_iff :
    (∃ item after, p.removeItem index data = .ok (item, after)) ↔
      ∃ items, p.get? data = some (.arr items) ∧ 2 ≤ items.length ∧ index < items.length := by
  simp only [removeItem_eq_ok_iff]
  constructor
  · rintro ⟨item, after, items, hget, hitem, hlength, _⟩
    exact ⟨items, hget, hlength, (List.getElem?_eq_some_iff.mp hitem).1⟩
  · rintro ⟨items, hget, hlength, hindex⟩
    obtain ⟨after, hset⟩ := exists_set_iff.mpr (writable_of_get? hget)
    exact ⟨items[index], after, items, hget, List.getElem?_eq_getElem hindex, hlength, hset⟩

/-- Removing what was just appended to a list leaves the data as it was. -/
theorem removeItem_of_append (ho : (Json.obj data).Ordered) (hget : p.get? data = some (.arr items))
    (hne : items ≠ []) (h : p.append item data = .ok (n, after)) :
    p.removeItem items.length after = .ok (item, data) := by
  obtain ⟨_, hset⟩ := (append_of_get? hget).mp h
  -- Of the two settings the second wins, and it sets what is there.
  obtain ⟨last, hlast, hdata⟩ := set_set hset (.arr items)
  obtain rfl : data = last := by simpa [set_get? ho hget] using hdata
  have herase : (items ++ [item]).eraseIdx items.length = items := by
    rw [List.eraseIdx_append_of_length_le le_rfl]
    simp
  have hlength : 2 ≤ (items ++ [item]).length := by
    have hpos := List.length_pos_iff.mpr hne
    simp
    omega
  exact removeItem_eq_ok_iff.mpr ⟨_, get?_set hset, by simp, hlength, by rwa [herase]⟩

end FieldPath

/-! ## Lists of components -/

namespace Document

variable {d d' : Document} {id : Nat} {c : Component} {list : String} {p : FieldPath}

theorem append_eq_ok_iff (hc : d.get? id = some c) (hp : FieldPath.parse list = .ok p)
    {item : Json} {n : Nat} :
    d.append id list item = (.ok n, d') ↔
      ∃ after, p.append item c.data = .ok (n, after) ∧ d' = d.withData id after :=
  updateAt_eq_ok_iff hc hp

theorem removeItem_eq_ok_iff (hc : d.get? id = some c) (hp : FieldPath.parse list = .ok p)
    {index : Nat} {item : Json} :
    d.removeItem id list index = (.ok item, d') ↔
      ∃ after, p.removeItem index c.data = .ok (item, after) ∧ d' = d.withData id after :=
  updateAt_eq_ok_iff hc hp

/-- What appending and removing do to the data of a component, at the path of any list.  An append
succeeds where a list is, and where nothing or `null` is if it can be written there; it returns the
new length, and the item stands at the end.  A removal succeeds for each item of a list that has two
or more; it returns the item, and the others stay in order, so no list is left empty.  Nothing is
changed at places apart from the list.  Removing the item that was appended to a list with items
leaves the document as it was. -/
theorem lists_exact (hc : d.get? id = some c) (hp : FieldPath.parse list = .ok p) :
    (∀ item, (∃ n d', d.append id list item = (.ok n, d')) ↔
      (∃ items, p.get? c.data = some (.arr items)) ∨
        (p.get? c.data = none ∨ p.get? c.data = some .null) ∧ p.Writable c.data) ∧
    (∀ item n d', d.append id list item = (.ok n, d') →
      ∃ after, d'.get? id = some { c with data := after } ∧
        n = (p.itemsAt c.data).length + 1 ∧
        p.get? after = some (.arr (p.itemsAt c.data ++ [item])) ∧
        ∀ q : FieldPath, p.Apart q → q.get? after = q.get? c.data) ∧
    (∀ index, (∃ item d', d.removeItem id list index = (.ok item, d')) ↔
      ∃ items, p.get? c.data = some (.arr items) ∧ 2 ≤ items.length ∧ index < items.length) ∧
    (∀ index item d', d.removeItem id list index = (.ok item, d') →
      ∃ items after, p.get? c.data = some (.arr items) ∧
        d'.get? id = some { c with data := after } ∧ items[index]? = some item ∧
        p.get? after = some (.arr (items.eraseIdx index)) ∧ items.eraseIdx index ≠ [] ∧
        ∀ q : FieldPath, p.Apart q → q.get? after = q.get? c.data) ∧
    ((Json.obj c.data).Ordered → ∀ items item n d', p.get? c.data = some (.arr items) →
      items ≠ [] → d.append id list item = (.ok n, d') →
      d'.removeItem id list items.length = (.ok item, d)) := by
  refine ⟨fun item => ?_, fun item n d' h => ?_, fun index => ?_, fun index item d' h => ?_, ?_⟩
  · rw [← FieldPath.exists_append_iff item]
    simp [append_eq_ok_iff hc hp]
  · obtain ⟨after, hafter, rfl⟩ := (append_eq_ok_iff hc hp).mp h
    obtain ⟨_, hn, hset⟩ := FieldPath.append_eq_ok_iff.mp hafter
    exact ⟨after, get?_withData hc after, hn, FieldPath.get?_set hset,
      fun q hq => FieldPath.get?_set_of_apart hq hset⟩
  · rw [← FieldPath.exists_removeItem_iff]
    simp [removeItem_eq_ok_iff hc hp]
  · obtain ⟨after, hafter, rfl⟩ := (removeItem_eq_ok_iff hc hp).mp h
    obtain ⟨items, hget, hitem, hlength, hset⟩ := FieldPath.removeItem_eq_ok_iff.mp hafter
    have hne : items.eraseIdx index ≠ [] := by
      obtain ⟨hindex, _⟩ := List.getElem?_eq_some_iff.mp hitem
      refine List.ne_nil_of_length_pos ?_
      rw [List.length_eraseIdx_of_lt hindex]
      omega
    exact ⟨items, after, hget, get?_withData hc after, hitem, FieldPath.get?_set hset, hne,
      fun q hq => FieldPath.get?_set_of_apart hq hset⟩
  · intro ho items item n d' hget hne h
    obtain ⟨after, hafter, rfl⟩ := (append_eq_ok_iff hc hp).mp h
    have hremoved := FieldPath.removeItem_of_append ho hget hne hafter
    refine (removeItem_eq_ok_iff (get?_withData hc after) hp).mpr ⟨_, hremoved, ?_⟩
    rw [withData_withData, withData_self hc]

/-- A tab that was added to the tabs is taken away again.  A list that nothing was at is made with its
first item, which cannot be removed. -/
theorem lists_exact_tabs :
    let d := ((empty 1).add "tabs").2
    (∃ d', d.append 1 "tabs" .null = (.ok 4, d') ∧ d'.removeItem 1 "tabs" 3 = (.ok .null, d)) ∧
    ∃ d', d.append 1 "notes.rows" (.str "a") = (.ok 1, d') ∧
      ¬∃ item d'', d'.removeItem 1 "notes.rows" 0 = (.ok item, d'') := by
  intro d
  have hc : d.get? 1 = some ⟨1, "tabs", Kind.tabs.template⟩ := rfl
  have htabs : FieldPath.parse "tabs" = .ok ⟨"tabs", []⟩ := rfl
  have hnotes : FieldPath.parse "notes.rows" = .ok ⟨"notes", [.key "rows"]⟩ := rfl
  constructor
  · obtain ⟨happend, hlonger, _, _, hrestore⟩ := lists_exact hc htabs
    obtain ⟨n, d', hd'⟩ := (happend .null).mpr (Or.inl ⟨_, rfl⟩)
    obtain ⟨_, _, rfl, _⟩ := hlonger _ _ _ hd'
    exact ⟨d', hd', hrestore Kind.tabs.storable_template.ordered _ _ _ _ rfl
      (List.cons_ne_nil _ _) hd'⟩
  · have hwritable : FieldPath.Writable ⟨"notes", [.key "rows"]⟩ Kind.tabs.template :=
      FieldPath.exists_set_iff.mp ⟨_, (rfl : FieldPath.set _ (.arr []) _ = .ok _)⟩
    obtain ⟨happend, hlonger, _⟩ := lists_exact hc hnotes
    obtain ⟨n, d', hd'⟩ := (happend (.str "a")).mpr (Or.inr ⟨Or.inl rfl, hwritable⟩)
    obtain ⟨after, hafter, rfl, hget, _⟩ := hlonger _ _ _ hd'
    refine ⟨d', hd', fun hremoved => ?_⟩
    obtain ⟨items, hitems, hlength, _⟩ := ((lists_exact hafter hnotes).2.2.1 0).mp hremoved
    cases hget.symm.trans hitems
    exact absurd hlength (by decide)

end Document

end PageBuilder
