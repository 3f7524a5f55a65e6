import PageBuilder.Form.Edit
import PageBuilder.Proofs.Document.Operations
import PageBuilder.Proofs.Path.InPlace

/-!
# What fails changes nothing

An operation on a document that fails leaves the document as it was (`unchanged_of_failed`).  This
is so although a write that works in place may leave half its work behind: patching and appending
are work in place on a copy of the data (`patch_eq_onCopy`, `append_eq_onCopy`), and the copy takes
the place of the data only on success.
-/

namespace PageBuilder

namespace Document

variable {d : Document} {id : Nat}

/-! ## Data of one component -/

theorem Writes.eq_of_error {α : Type} {change : Object → α → Object → Prop}
    {r : Except Error α × Document} {error : Error} (hw : Writes d id change r)
    (h : r.1 = .error error) : r.2 = d := by
  cases hw with
  | failed _ => rfl
  | written _ _ => cases h

theorem Writes.eq_of_missing {α : Type} {change : Object → α → Object → Prop}
    {r : Except Error α × Document} (hw : Writes d id change r) (h : d.get? id = none) :
    r.2 = d := by
  cases hw with
  | failed _ => rfl
  | written hc _ =>
      rw [h] at hc
      cases hc

theorem Writes.error_of_missing {α : Type} {change : Object → α → Object → Prop}
    {r : Except Error α × Document} (hw : Writes d id change r) (h : d.get? id = none) :
    ∃ error, r.1 = .error error := by
  cases hw with
  | failed error => exact ⟨error, rfl⟩
  | written hc _ =>
      rw [h] at hc
      cases hc

/-! ## Components -/

theorem eq_of_add_error {typeName : String} {error : Error}
    (h : (d.add typeName).1 = .error error) : (d.add typeName).2 = d := by
  obtain ⟨_, he⟩ | ⟨_, _, _, _, _, hadd⟩ := d.add_cases typeName
  · rw [he]
  · rw [hadd] at h
    cases h

theorem eq_of_not_moved {direction : Direction} (h : (d.move id direction).1 = false) :
    (d.move id direction).2 = d := by
  obtain hm | ⟨_, hm⟩ := d.move_cases id direction
  · rw [hm]
  · rw [hm] at h
    cases h

theorem eq_of_not_removed (h : (d.remove id).1 = none) : (d.remove id).2 = d := by
  obtain hr | ⟨_, _, hr⟩ := d.remove_cases id
  · rw [hr]
  · rw [hr] at h
    cases h

theorem eq_of_not_selected {choice : Option Nat} (h : (d.select choice).1 = false) :
    (d.select choice).2 = d := by
  cases choice with
  | none => cases h
  | some id =>
      rw [select] at h ⊢
      split at h
      · cases h
      next hfound => rw [if_neg hfound]

/-! ## Work on a copy -/

/-- Carries out an operation in place on a copy of the data of a component.  The copy takes the
place of the data only if the operation succeeds. -/
def onCopy {α : Type} (d : Document) (id : Nat) (f : Object → Except Error α × Object) :
    Except Error α × Document :=
  match d.get? id with
  | none => (.error (.notFound id), d)
  | some c =>
      match f c.data with
      | (.error e, _) => (.error e, d)
      | (.ok a, data) => (.ok a, d.withData id data)

theorem updateData_onSuccess {α : Type} (d : Document) (id : Nat)
    (f : Object → Except Error α × Object) :
    d.updateData id (fun data => onSuccess (f data)) = d.onCopy id f := by
  unfold updateData onCopy
  cases d.get? id with
  | none => rfl
  | some c =>
      simp only
      generalize f c.data = r
      obtain ⟨result, data⟩ := r
      cases result <;> rfl

/-- Patching sets the field in place, on a copy. -/
theorem patch_eq_onCopy {path : String} {p : FieldPath} (hp : FieldPath.parse path = .ok p)
    (d : Document) (id : Nat) (value : Json) :
    d.patch id path value = d.onCopy id (p.setInPlace value) := by
  have hset : (fun data => do return ((), ← p.set value data)) =
      fun data => onSuccess (p.setInPlace value data) := by
    funext data
    rw [p.set_eq_setInPlace]
    generalize p.setInPlace value data = r
    obtain ⟨result, after⟩ := r
    cases result <;> rfl
  rw [← updateData_onSuccess, patch, updateAt, hp]
  exact congrArg (d.updateData id) hset

/-- Appending appends in place, on a copy. -/
theorem append_eq_onCopy {list : String} {p : FieldPath} (hp : FieldPath.parse list = .ok p)
    (d : Document) (id : Nat) (item : Json) :
    d.append id list item = d.onCopy id (p.appendInPlace item) := by
  rw [← updateData_onSuccess, append, updateAt, hp]
  exact congrArg (d.updateData id) (funext fun data => p.append_eq_appendInPlace item data)

end Document

/-! ## Edits -/

namespace Edit

theorem withoutResult_fst {α : Type} {r : Except Error α × Document} {error : Error}
    (h : (withoutResult r).1 = .error error) : r.1 = .error error := by
  obtain ⟨result, d⟩ := r
  cases result with
  | error e => cases h; rfl
  | ok a => cases h

/-- An edit that cannot be carried out leaves the document. -/
theorem eq_of_apply_error {change : Edit} {d : Document} {id : Nat} {error : Error}
    (h : (change.apply d id).1 = .error error) : (change.apply d id).2 = d := by
  cases change with
  | set path value => exact (d.patch_writes id path value).eq_of_error h
  | setCommaList path raw numeric => exact (d.patch_writes id path _).eq_of_error h
  | append list => exact (d.appendDefault_writes id list).eq_of_error (withoutResult_fst h)
  | remove list index => exact (d.removeItem_writes id list index).eq_of_error (withoutResult_fst h)
  | setColumnCount count => exact (d.setColumnCount_writes id count).eq_of_error h

theorem withoutResult_error {α : Type} {r : Except Error α × Document} {error : Error}
    (h : r.1 = .error error) : (withoutResult r).1 = .error error := by
  rw [withoutResult, h]
  rfl

/-- An edit of a component that is not there fails. -/
theorem error_of_missing (change : Edit) {d : Document} {id : Nat} (h : d.get? id = none) :
    ∃ error, (change.apply d id).1 = .error error := by
  cases change with
  | set path value => exact (d.patch_writes id path value).error_of_missing h
  | setCommaList path raw numeric => exact (d.patch_writes id path _).error_of_missing h
  | append list =>
      obtain ⟨error, he⟩ := (d.appendDefault_writes id list).error_of_missing h
      exact ⟨error, withoutResult_error he⟩
  | remove list index =>
      obtain ⟨error, he⟩ := (d.removeItem_writes id list index).error_of_missing h
      exact ⟨error, withoutResult_error he⟩
  | setColumnCount count => exact (d.setColumnCount_writes id count).error_of_missing h

end Edit

/-! ## All or nothing -/

namespace Document

/-- An operation that fails, or says that it changed nothing, leaves every part of the document as
it was.  Patching and appending work in place on a copy, and a write in place that fails may leave
the copy changed. -/
theorem unchanged_of_failed (d : Document) :
    (∀ typeName error d', d.add typeName = (.error error, d') → d' = d) ∧
    (∀ id path value error d', d.patch id path value = (.error error, d') → d' = d) ∧
    (∀ id list item error d', d.append id list item = (.error error, d') → d' = d) ∧
    (∀ id list error d', d.appendDefault id list = (.error error, d') → d' = d) ∧
    (∀ id list index error d', d.removeItem id list index = (.error error, d') → d' = d) ∧
    (∀ id count error d', d.setColumnCount id count = (.error error, d') → d' = d) ∧
    (∀ (change : Edit) id error d', change.apply d id = (.error error, d') → d' = d) ∧
    (∀ id direction d', d.move id direction = (false, d') → d' = d) ∧
    (∀ id d', d.remove id = (none, d') → d' = d) ∧
    (∀ choice d', d.select choice = (false, d') → d' = d) ∧
    (∀ path p, FieldPath.parse path = .ok p →
      (∀ id value, d.patch id path value = d.onCopy id (p.setInPlace value)) ∧
      (∀ id item, d.append id path item = d.onCopy id (p.appendInPlace item))) ∧
    ∃ (p : FieldPath) (value : Json) (data : Object) (error : Error) (left : Object),
      p.setInPlace value data = (.error error, left) ∧ left ≠ data := by
  refine ⟨?_, ?_, ?_, ?_, ?_, ?_, ?_, ?_, ?_, ?_, ?_, ?_⟩
  · intro typeName error d' h
    simpa [h] using eq_of_add_error (congrArg Prod.fst h)
  · intro id path value error d' h
    simpa [h] using (d.patch_writes id path value).eq_of_error (congrArg Prod.fst h)
  · intro id list item error d' h
    simpa [h] using (d.append_writes id list item).eq_of_error (congrArg Prod.fst h)
  · intro id list error d' h
    simpa [h] using (d.appendDefault_writes id list).eq_of_error (congrArg Prod.fst h)
  · intro id list index error d' h
    simpa [h] using (d.removeItem_writes id list index).eq_of_error (congrArg Prod.fst h)
  · intro id count error d' h
    simpa [h] using (d.setColumnCount_writes id count).eq_of_error (congrArg Prod.fst h)
  · intro change id error d' h
    simpa [h] using Edit.eq_of_apply_error (congrArg Prod.fst h)
  · intro id direction d' h
    simpa [h] using eq_of_not_moved (congrArg Prod.fst h)
  · intro id d' h
    simpa [h] using eq_of_not_removed (congrArg Prod.fst h)
  · intro choice d' h
    simpa [h] using eq_of_not_selected (congrArg Prod.fst h)
  · intro path p hp
    exact ⟨fun id => patch_eq_onCopy hp d id, fun id => append_eq_onCopy hp d id⟩
  · -- An object is made for the name, and only then it turns out to be no list.
    exact ⟨⟨"a", [.key "b", .index 0]⟩, .null, [], _, _, rfl, List.cons_ne_nil _ _⟩

/-- A document that is full takes no other component, and a path through what is no list leaves its
component. -/
theorem unchanged_of_failed_tabs :
    (((empty 1).add "tabs").2.add "tabs").2 = ((empty 1).add "tabs").2 ∧
    (((empty 1).add "tabs").2.patch 1 "extra.deep[0]" .null).2 = ((empty 1).add "tabs").2 ∧
    (((empty 1).add "tabs").2.move 1 .up).2 = ((empty 1).add "tabs").2 := by
  obtain ⟨hadd, hpatch, _, _, _, _, _, hmove, _⟩ := unchanged_of_failed ((empty 1).add "tabs").2
  exact ⟨hadd "tabs" _ _ rfl, hpatch 1 "extra.deep[0]" .null _ _ rfl, hmove 1 .up _ rfl⟩

end Document

end PageBuilder
