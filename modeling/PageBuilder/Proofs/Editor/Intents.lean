import PageBuilder.Editor
import PageBuilder.Proofs.Document.Failure
import PageBuilder.Proofs.Document.Identity

/-!
# What an editor is asked to do

The intents of a user as values.  What an intent does to the document is an operation on it
(`document_intend`), and every intent that changes what would be saved makes a request to save it
(`noted_intend`).
-/

namespace PageBuilder

/-- What a user may ask of an editor, saving aside. -/
inductive Intent where
  | add (typeName : String)
  | move (id : Nat) (direction : Direction)
  | remove (id : Nat)
  | clear
  | select (id : Option Nat)
  | patch (id : Nat) (path : String) (value : Json)
  | edit (id : Nat) (change : Edit)
  | rename (name : String)
  | setSettings (settings : Settings)
  /-- A file that is uploaded with the given outcome. -/
  | upload (id : Nat) (path : String) (outcome : Option (Except Error String))

/-- The operation on a document that an edit of a component is. -/
def Edit.operation (id : Nat) : Edit → Document.Operation
  | .set path value => .patch id path value
  | .setCommaList path raw numeric => .patch id path (CommaList.stored raw numeric)
  | .append list => .appendDefault id list
  | .remove list index => .removeItem id list index
  | .setColumnCount count => .setColumnCount id count

/-- The operation on the document that an intent is, if it is one. -/
def Intent.operation? : Intent → Option Document.Operation
  | .add typeName => some (.add typeName)
  | .move id direction => some (.move id direction)
  | .remove id => some (.remove id)
  | .clear => some .clear
  | .select id => some (.select id)
  | .patch id path value => some (.patch id path value)
  | .edit id change => some (change.operation id)
  | .upload id path (some (.ok url)) => some (.patch id path (.str url))
  | .rename _ | .setSettings _ | .upload .. => none

namespace Edit

theorem apply_snd (change : Edit) (d : Document) (id : Nat) :
    (change.apply d id).2 = d.perform (change.operation id) := by
  cases change <;> rfl

end Edit

/-! ## Intents -/

namespace Editor

/-- The editor after an intent. -/
def intend (e : Editor) : Intent → Editor
  | .add typeName => (e.add typeName).2
  | .move id direction => (e.move id direction).2
  | .remove id => (e.remove id).2
  | .clear => e.clear
  | .select id => (e.select id).2
  | .patch id path value => (e.patch id path value).2
  | .edit id change => (e.edit id change).2
  | .rename name => e.rename name
  | .setSettings settings => e.setSettings settings
  | .upload id path outcome => (e.upload id path outcome).2

/-- An intent is noted: what would be saved is as it was and nothing is requested, or a save of what
would be saved now is requested. -/
inductive Noted (e e' : Editor) : Prop where
  | unchanged : e'.snapshot = e.snapshot → e'.saving = e.saving → Noted e e'
  | requested : e'.saving = e.saving.schedule e'.snapshot → Noted e e'

variable {e : Editor}

@[simp] theorem snapshot_changed (e : Editor) : e.changed.snapshot = e.snapshot := rfl

@[simp] theorem document_changed (e : Editor) : e.changed.document = e.document := rfl

@[simp] theorem document_attempt {α : Type} (r : Except Error α × Document) :
    (e.attempt r).2.document = r.2 := by
  obtain ⟨result, d⟩ := r
  cases result <;> rfl

theorem noted_attempt {α : Type} {r : Except Error α × Document}
    (h : ∀ error, r.1 = .error error → r.2 = e.document) : Noted e (e.attempt r).2 := by
  obtain ⟨result, d⟩ := r
  cases result with
  | error error =>
      have hd : d = e.document := h error rfl
      subst hd
      exact .unchanged rfl rfl
  | ok a => exact .requested rfl

theorem noted_move (id : Nat) (direction : Direction) : Noted e (e.move id direction).2 := by
  obtain h | ⟨index, h⟩ := e.document.move_cases id direction
  · rw [move, h]
    exact .unchanged rfl rfl
  · rw [move, h]
    exact .requested rfl

theorem noted_remove (id : Nat) : Noted e (e.remove id).2 := by
  obtain h | ⟨c, _, h⟩ := e.document.remove_cases id
  · rw [remove, h]
    exact .unchanged rfl rfl
  · rw [remove, h]
    exact .requested rfl

theorem noted_select (id : Option Nat) : Noted e (e.select id).2 :=
  .unchanged (by simp only [snapshot, select, Document.components_select]) rfl

theorem noted_patch (id : Nat) (path : String) (value : Json) :
    Noted e (e.patch id path value).2 :=
  noted_attempt fun _ h => (e.document.patch_writes id path value).eq_of_error h

theorem noted_upload (id : Nat) (path : String) (outcome : Option (Except Error String)) :
    Noted e (e.upload id path outcome).2 := by
  cases outcome with
  | none => exact .unchanged rfl rfl
  | some result =>
      by_cases hmissing : (e.document.get? id).isNone
      · simp only [upload, if_pos hmissing]
        exact .unchanged rfl rfl
      · simp only [upload, if_neg hmissing]
        cases result with
        | error error => exact .unchanged rfl rfl
        | ok url => exact noted_patch id path (.str url)

/-- Every intent that changes what would be saved requests a save of it. -/
theorem noted_intend (i : Intent) : Noted e (e.intend i) := by
  cases i with
  | add typeName => exact noted_attempt fun _ h => Document.eq_of_add_error h
  | move id direction => exact noted_move id direction
  | remove id => exact noted_remove id
  | select id => exact noted_select id
  | patch id path value => exact noted_patch id path value
  | edit id change => exact noted_attempt fun _ h => Edit.eq_of_apply_error h
  | upload id path outcome => exact noted_upload id path outcome
  | clear | rename | setSettings => exact .requested rfl

/-! ## The document -/

theorem document_move (id : Nat) (direction : Direction) :
    (e.move id direction).2.document = (e.document.move id direction).2 := by
  obtain h | ⟨index, h⟩ := e.document.move_cases id direction
  all_goals simp only [move, h, document_changed]

theorem document_remove (id : Nat) :
    (e.remove id).2.document = (e.document.remove id).2 := by
  obtain h | ⟨c, _, h⟩ := e.document.remove_cases id
  all_goals simp only [remove, h, document_changed]

/-- What an intent does to the document is the operation that it is. -/
theorem document_intend (i : Intent) :
    (e.intend i).document = i.operation?.elim e.document e.document.perform := by
  cases i with
  | add typeName => exact document_attempt _
  | move id direction => exact document_move id direction
  | remove id => exact document_remove id
  | patch id path value => exact document_attempt _
  | edit id change => exact (document_attempt _).trans (change.apply_snd e.document id)
  | clear | select | rename | setSettings => rfl
  | upload id path outcome =>
      cases outcome with
      | none => rfl
      | some result =>
          cases result with
          | error error =>
              by_cases hmissing : (e.document.get? id).isNone
              · simp only [intend, upload, if_pos hmissing]
                rfl
              · simp only [intend, upload, if_neg hmissing]
                rfl
          | ok url =>
              by_cases hmissing : (e.document.get? id).isNone
              · simp only [intend, upload, if_pos hmissing]
                have hnone : e.document.get? id = none := Option.isNone_iff_eq_none.mp hmissing
                exact ((e.document.patch_writes id path (.str url)).eq_of_missing hnone).symm
              · simp only [intend, upload, if_neg hmissing]
                exact document_attempt _

end Editor

end PageBuilder
