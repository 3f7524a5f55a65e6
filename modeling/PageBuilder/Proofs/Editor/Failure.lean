import PageBuilder.Proofs.Editor.Intents
import PageBuilder.Proofs.Saving.Timer

/-!
# Intents that change nothing

An intent that fails, or says that it changed nothing, leaves the whole editor as it was: the
document, the name, the settings, and all of saving, with what waits on the timer, when the timer
runs out and the number of the last request (`untouched_of_failed`).  Selecting changes the
selection and nothing else.  Every other intent puts what it left on the timer
(`saving_of_alters`).

An upload takes its time, and meanwhile the timer and the saves go on.  `uploadOver` is an upload
with that time in it; one that fails leaves what would be there without it
(`eq_of_uploadOver_error`), so as long as the timer does not run out by itself, it stays as it was
(`kept_of_uploadOver_error`).
-/

namespace PageBuilder.Editor

variable {e : Editor}

/-! ## Attempts -/

@[simp] theorem fst_attempt {α : Type} (r : Except Error α × Document) :
    (e.attempt r).1 = r.1 := by
  obtain ⟨result, d⟩ := r
  cases result <;> rfl

/-- A failed attempt leaves the editor if the operation left the document. -/
theorem eq_of_attempt_error {α : Type} {r : Except Error α × Document} {error : Error}
    (h : r.1 = .error error) (hd : r.2 = e.document) : (e.attempt r).2 = e := by
  obtain ⟨result, d⟩ := r
  cases h
  cases hd
  rfl

theorem saving_of_attempt_ok {α : Type} {r : Except Error α × Document}
    (h : r.1.isOk = true) :
    (e.attempt r).2.saving = e.saving.schedule (e.attempt r).2.snapshot := by
  obtain ⟨result, d⟩ := r
  cases result with
  | ok a => rfl
  | error error => cases h

/-! ## Intents that fail -/

theorem eq_of_add_error {typeName : String} {error : Error}
    (h : (e.add typeName).1 = .error error) : (e.add typeName).2 = e := by
  have hadd : (e.document.add typeName).1 = .error error := by rwa [add, fst_attempt] at h
  exact eq_of_attempt_error hadd (Document.eq_of_add_error hadd)

theorem eq_of_patch_error {id : Nat} {path : String} {value : Json} {error : Error}
    (h : (e.patch id path value).1 = .error error) : (e.patch id path value).2 = e := by
  have hpatch : (e.document.patch id path value).1 = .error error := by
    rwa [patch, fst_attempt] at h
  exact eq_of_attempt_error hpatch ((e.document.patch_writes id path value).eq_of_error hpatch)

theorem eq_of_edit_error {id : Nat} {change : Edit} {error : Error}
    (h : (e.edit id change).1 = .error error) : (e.edit id change).2 = e := by
  have hedit : (change.apply e.document id).1 = .error error := by rwa [edit, fst_attempt] at h
  exact eq_of_attempt_error hedit (Edit.eq_of_apply_error hedit)

theorem eq_of_not_moved {id : Nat} {direction : Direction} (h : (e.move id direction).1 = false) :
    (e.move id direction).2 = e := by
  obtain hm | ⟨index, hm⟩ := e.document.move_cases id direction
  · rw [move, hm]
  · rw [move, hm] at h
    cases h

theorem eq_of_not_removed {id : Nat} (h : (e.remove id).1 = none) : (e.remove id).2 = e := by
  obtain hr | ⟨c, _, hr⟩ := e.document.remove_cases id
  · rw [remove, hr]
  · rw [remove, hr] at h
    cases h

/-- Selecting changes the selection if what is selected is there, and nothing else. -/
theorem select_eq (e : Editor) (choice : Option Nat) :
    (e.select choice).2 =
      { e with
        document :=
          { e.document with
            selected := if (e.select choice).1 then choice else e.document.selected } } := by
  cases choice with
  | none => rfl
  | some id =>
      simp only [select, Document.select]
      split <;> rfl

/-! ## Uploads that take a while -/

/-- An upload that takes a while.  `saving` is what saving has come to when the upload is over;
while it goes on, nothing else is done with the editor. -/
def uploadOver (e : Editor) (saving : Timeline Project.Update) (id : Nat) (path : String)
    (upload : Option (Except Error String)) : Except Error String × Editor :=
  match upload with
  | none => (.error (.uploadFailed "no uploader configured"), e)
  | some result =>
      if (e.document.get? id).isNone then (.error (.notFound id), e)
      else
        let e := { e with saving }
        match result with
        | .error error => (.error error, e)
        | .ok url =>
            let (written, e) := e.patch id path (.str url)
            (written.map fun _ => url, e)

/-- An upload is one that takes no time. -/
theorem upload_eq_uploadOver (e : Editor) (id : Nat) (path : String)
    (outcome : Option (Except Error String)) :
    e.upload id path outcome = e.uploadOver e.saving id path outcome := by
  rfl

/-- Whether an upload gets to where a file is sent. -/
def startsUpload (e : Editor) (id : Nat) (outcome : Option (Except Error String)) : Bool :=
  outcome.isSome && (e.document.get? id).isSome

/-- An upload that fails leaves what is there without it: nothing changed if no file was sent, and
else saving went on. -/
theorem eq_of_uploadOver_error {saving : Timeline Project.Update} {id : Nat} {path : String}
    {outcome : Option (Except Error String)} {error : Error}
    (h : (e.uploadOver saving id path outcome).1 = .error error) :
    (e.uploadOver saving id path outcome).2 =
      if e.startsUpload id outcome then { e with saving } else e := by
  cases outcome with
  | none => rfl
  | some result =>
      cases hfound : e.document.get? id with
      | none => simp [uploadOver, startsUpload, hfound]
      | some c =>
          simp only [uploadOver, startsUpload, hfound, Option.isNone_some, Option.isSome_some,
            Bool.and_self, if_true, Bool.false_eq_true, if_false] at h ⊢
          cases result with
          | error error => rfl
          | ok url =>
              cases hwritten : ({ e with saving }.patch id path (.str url)).1 with
              | error reason => exact eq_of_patch_error hwritten
              | ok written =>
                  simp only [hwritten] at h
                  cases h

/-- A failed upload makes no request, and the timer is as it was, unless it ran out meanwhile. -/
theorem kept_of_uploadOver_error {time id : Nat} {path : String}
    {outcome : Option (Except Error String)} {error : Error} {result : Editor}
    (h : e.uploadOver (e.saving.advance time) id path outcome = (.error error, result)) :
    result.document = e.document ∧ result.name = e.name ∧ result.settings = e.settings ∧
    result.saving.queue.requested = e.saving.queue.requested ∧
    (e.saving.now + time < e.saving.timerDue →
      result.saving.queue.timer = e.saving.queue.timer ∧
      result.saving.timerDue = e.saving.timerDue) := by
  have hresult := eq_of_uploadOver_error (congrArg Prod.fst h)
  rw [h] at hresult
  dsimp only at hresult
  subst hresult
  split
  · exact ⟨rfl, rfl, rfl, e.saving.requested_advance time, fun hdue =>
      ⟨Timeline.timer_advance hdue, e.saving.timerDue_advance time⟩⟩
  · exact ⟨rfl, rfl, rfl, rfl, fun _ => ⟨rfl, rfl⟩⟩

theorem eq_of_upload_error {id : Nat} {path : String} {outcome : Option (Except Error String)}
    {error : Error} (h : (e.upload id path outcome).1 = .error error) :
    (e.upload id path outcome).2 = e := by
  rw [upload_eq_uploadOver] at h ⊢
  rw [eq_of_uploadOver_error h, ite_self]

theorem exists_patch_of_upload {id : Nat} {path : String} {outcome : Option (Except Error String)}
    (h : (e.upload id path outcome).1.isOk = true) :
    ∃ url, (e.patch id path (.str url)).1.isOk = true ∧
      (e.upload id path outcome).2 = (e.patch id path (.str url)).2 := by
  cases outcome with
  | none => cases h
  | some result =>
      cases hfound : e.document.get? id with
      | none =>
          simp only [upload, hfound, Option.isNone_none, if_true] at h
          cases h
      | some c =>
          simp only [upload, hfound, Option.isNone_some, Bool.false_eq_true, if_false] at h ⊢
          cases result with
          | error error => cases h
          | ok url =>
              refine ⟨url, ?_, rfl⟩
              cases hwritten : (e.patch id path (.str url)).1 with
              | error reason =>
                  simp only [hwritten] at h
                  cases h
              | ok written => rfl

/-! ## Which intents change what is saved -/

/-- Whether an intent goes through and changes what is saved.  Selecting never does. -/
def alters (e : Editor) : Intent → Bool
  | .add typeName => (e.add typeName).1.isOk
  | .move id direction => (e.move id direction).1
  | .remove id => (e.remove id).1.isSome
  | .select _ => false
  | .patch id path value => (e.patch id path value).1.isOk
  | .edit id change => (e.edit id change).1.isOk
  | .upload id path outcome => (e.upload id path outcome).1.isOk
  | .clear | .rename _ | .setSettings _ => true

theorem exists_error_of_not_isOk {α : Type} {result : Except Error α} (h : result.isOk = false) :
    ∃ error, result = .error error := by
  cases result with
  | error error => exact ⟨error, rfl⟩
  | ok a => cases h

/-- An intent that does not alter anything leaves the editor, but for what is selected. -/
theorem intend_of_not_alters {i : Intent} (h : e.alters i = false) :
    ∃ selected, e.intend i = { e with document := { e.document with selected } } := by
  have hunchanged : e.intend i = e →
      ∃ selected, e.intend i = { e with document := { e.document with selected } } :=
    fun he => ⟨e.document.selected, he⟩
  cases i with
  | add typeName =>
      obtain ⟨error, he⟩ := exists_error_of_not_isOk h
      exact hunchanged (eq_of_add_error he)
  | move id direction => exact hunchanged (eq_of_not_moved h)
  | remove id =>
      have hnone : (e.remove id).1.isSome = false := h
      exact hunchanged (eq_of_not_removed (by simpa using hnone))
  | select choice => exact ⟨_, e.select_eq choice⟩
  | patch id path value =>
      obtain ⟨error, he⟩ := exists_error_of_not_isOk h
      exact hunchanged (eq_of_patch_error he)
  | edit id change =>
      obtain ⟨error, he⟩ := exists_error_of_not_isOk h
      exact hunchanged (eq_of_edit_error he)
  | upload id path outcome =>
      obtain ⟨error, he⟩ := exists_error_of_not_isOk h
      exact hunchanged (eq_of_upload_error he)
  | clear | rename | setSettings => cases h

/-- An intent that alters something puts what it left on the timer. -/
theorem saving_of_alters {i : Intent} (h : e.alters i = true) :
    (e.intend i).saving = e.saving.schedule (e.intend i).snapshot := by
  cases i with
  | add typeName =>
      rw [alters, add, fst_attempt] at h
      exact saving_of_attempt_ok h
  | move id direction =>
      obtain hm | ⟨index, hm⟩ := e.document.move_cases id direction
      · rw [alters, move, hm] at h
        cases h
      · simp only [intend, move, hm]
        rfl
  | remove id =>
      obtain hr | ⟨c, _, hr⟩ := e.document.remove_cases id
      · rw [alters, remove, hr] at h
        cases h
      · simp only [intend, remove, hr]
        rfl
  | select choice => cases h
  | patch id path value =>
      rw [alters, patch, fst_attempt] at h
      exact saving_of_attempt_ok h
  | edit id change =>
      rw [alters, edit, fst_attempt] at h
      exact saving_of_attempt_ok h
  | upload id path outcome =>
      obtain ⟨url, hpatched, hupload⟩ := exists_patch_of_upload h
      rw [intend, hupload]
      rw [patch, fst_attempt] at hpatched
      exact saving_of_attempt_ok hpatched
  | clear | rename | setSettings => rfl

/-! ## Nothing is touched -/

/-- Whatever waits or is saved: an intent that fails, or says that it moved or removed nothing,
leaves the editor with its document, its name, its settings and all of its saving as they were.  A
failed upload that takes a while leaves what saving came to by itself: it makes no request, and
unless it ran out meanwhile, the timer is as it was.  Selecting changes nothing but the selection,
and only if it succeeds. -/
theorem untouched_of_failed (e : Editor) :
    (∀ typeName error, (e.add typeName).1 = .error error → (e.add typeName).2 = e) ∧
    (∀ id path value error,
      (e.patch id path value).1 = .error error → (e.patch id path value).2 = e) ∧
    (∀ id change error, (e.edit id change).1 = .error error → (e.edit id change).2 = e) ∧
    (∀ id path outcome error,
      (e.upload id path outcome).1 = .error error → (e.upload id path outcome).2 = e) ∧
    (∀ saving id path outcome error,
      (e.uploadOver saving id path outcome).1 = .error error →
      (e.uploadOver saving id path outcome).2 =
        if e.startsUpload id outcome then { e with saving } else e) ∧
    (∀ time id path outcome error result,
      e.uploadOver (e.saving.advance time) id path outcome = (.error error, result) →
      result.document = e.document ∧ result.name = e.name ∧ result.settings = e.settings ∧
      result.saving.queue.requested = e.saving.queue.requested ∧
      (e.saving.now + time < e.saving.timerDue →
        result.saving.queue.timer = e.saving.queue.timer ∧
        result.saving.timerDue = e.saving.timerDue)) ∧
    (∀ id direction, (e.move id direction).1 = false → (e.move id direction).2 = e) ∧
    (∀ id, (e.remove id).1 = none → (e.remove id).2 = e) ∧
    ∀ choice, (e.select choice).2 =
      { e with
        document :=
          { e.document with
            selected := if (e.select choice).1 then choice else e.document.selected } } := by
  refine ⟨?_, ?_, ?_, ?_, ?_, ?_, ?_, ?_, ?_⟩
  · exact fun typeName error h => eq_of_add_error h
  · exact fun id path value error h => eq_of_patch_error h
  · exact fun id change error h => eq_of_edit_error h
  · exact fun id path outcome error h => eq_of_upload_error h
  · exact fun saving id path outcome error h => eq_of_uploadOver_error h
  · exact fun time id path outcome error result h => kept_of_uploadOver_error h
  · exact fun id direction h => eq_of_not_moved h
  · exact fun id h => eq_of_not_removed h
  · exact e.select_eq

/-- An editor with a full page, a save under way and a change on the timer until the time 30. -/
def busy : Editor :=
  let opening : Editor := ⟨.empty 1, "Draft", {}, .start 10 [⟨50, none⟩]⟩
  ((opening.intend (.add "text")).advance 20).intend (.rename "Shop")

theorem untouched_of_failed_busy :
    busy.saving.queue.inFlight.isSome = true ∧ busy.saving.isPending = true ∧
    busy.saving.now = 20 ∧ busy.saving.timerDue = 30 ∧
    (busy.add "text").2 = busy ∧ (busy.patch 7 "text" (.str "New")).2 = busy ∧
    (busy.edit 7 (.setColumnCount 2)).2 = busy ∧
    (busy.upload 1 "text[" (some (.ok "/a.png"))).2 = busy ∧
    (busy.move 1 .up).2 = busy ∧ (busy.remove 7).2 = busy ∧ (busy.select (some 7)).2 = busy ∧
    (let late :=
      busy.uploadOver (busy.saving.advance 5) 1 "image" (some (.error (.uploadFailed "too large")))
    late.2.saving.now = 25 ∧ late.2.saving.queue.requested = busy.saving.queue.requested ∧
      late.2.saving.isPending = true ∧ late.2.saving.timerDue = 30) := by
  obtain ⟨hadd, hpatch, hedit, hupload, _, hlate, hmove, hremove, hselect⟩ :=
    untouched_of_failed busy
  obtain ⟨_, _, _, hrequested, htimer⟩ :=
    hlate 5 1 "image" (some (.error (.uploadFailed "too large"))) _ _ rfl
  obtain ⟨hpending, hdue⟩ := htimer (by decide)
  exact ⟨rfl, rfl, rfl, rfl, hadd _ (.limitReached 1) rfl, hpatch _ _ _ (.notFound 7) rfl,
    hedit _ _ (.notFound 7) rfl,
    hupload _ _ _ (.invalidPath (.unreadable "text[" .unclosedBracket)) rfl, hmove _ _ rfl,
    hremove _ rfl, hselect _, rfl, hrequested, congrArg Option.isSome hpending, hdue⟩

end PageBuilder.Editor
