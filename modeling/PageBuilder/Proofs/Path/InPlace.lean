import PageBuilder.Document.Data
import PageBuilder.Proofs.Path.Lens

/-!
# Writing in place

A write that works in place makes objects and replaces `null` on its way, before it finds out that a
later step cannot be taken, so what it leaves behind when it fails need not be what it was given.
`setInPlace` and `appendInPlace` are writing and appending done this way.  They succeed where
`FieldPath.set` and `FieldPath.append` do, with the same outcome (`set_eq_setInPlace`,
`append_eq_appendInPlace`); all that is new is what a failure leaves.
-/

namespace PageBuilder

/-- What an operation in place gives to those who look at it only when it succeeds. -/
def onSuccess {ε α β : Type} : Except ε α × β → Except ε (α × β)
  | (.ok a, b) => .ok (a, b)
  | (.error e, _) => .error e

namespace Json

/-- Writes a value some steps away in place.  Beside the result stands what became of the target,
also if the write failed. -/
def writeInPlace (path : String) (value : Json) :
    List Segment → Json → Except PathFault Unit × Json
  | [], _ => (.ok (), value)
  | .key name :: rest, target =>
      match target.record? with
      | some entries =>
          let (result, inner) :=
            writeInPlace path value rest ((Object.get? name entries).getD .null)
          (result, .obj (Object.insert name inner entries))
      | none => (.error (.notInObject path name), target)
  | .index n :: rest, target =>
      match target with
      | .arr items =>
          match items[n]? with
          | some item =>
              let (result, inner) := writeInPlace path value rest item
              (result, .arr (items.set n inner))
          | none => (.error (.outOfRange path n items.length), target)
      | _ => (.error (.notInList path n), target)

theorem write_eq_writeInPlace (path : String) (value : Json) (segments : List Segment) :
    ∀ target : Json, write path value segments target =
      (onSuccess (writeInPlace path value segments target)).map Prod.snd := by
  induction segments with
  | nil => exact fun _ => rfl
  | cons s rest ih =>
      intro target
      cases s with
      | key name =>
          -- What is entered by name is an object, or is made one in place of `null`.
          have hinto : ∀ entries : Object,
              (write path value rest ((Object.get? name entries).getD .null) >>= fun inner =>
                .ok (.obj (Object.insert name inner entries))) =
              (onSuccess (writeInPlace path value (.key name :: rest) (.obj entries))).map
                Prod.snd := by
            intro entries
            rw [ih]
            simp only [writeInPlace, record?]
            generalize writeInPlace path value rest _ = r
            obtain ⟨result, inner⟩ := r
            cases result <;> rfl
          cases target with
          | obj entries => exact hinto entries
          | null => exact hinto []
          | _ => rfl
      | index n =>
          cases target with
          | arr items =>
              cases hitem : items[n]? with
              | none =>
                  simp only [write, writeInPlace, hitem]
                  rfl
              | some item =>
                  simp only [write, writeInPlace, hitem, ih]
                  generalize writeInPlace path value rest item = r
                  obtain ⟨result, inner⟩ := r
                  cases result <;> rfl
          | _ => rfl

end Json

namespace FieldPath

variable {p : FieldPath} {data : Object}

/-- Writes a value at a path in place. -/
def setInPlace (p : FieldPath) (value : Json) (data : Object) : Except Error Unit × Object :=
  let (result, root) := Json.writeInPlace p.text value p.segments (.obj data)
  (result.mapError .invalidPath, root.entries)

/-- Appends an item to the list at a path in place: an empty list is written first if nothing is
there. -/
def appendInPlace (p : FieldPath) (item : Json) (data : Object) : Except Error Nat × Object :=
  let (made, data) := if p.isVacant data then p.setInPlace (.arr []) data else (.ok (), data)
  match made >>= fun _ => p.focusList data with
  | .error e => (.error e, data)
  | .ok (items, put) => (.ok (items.length + 1), put (items ++ [item]))

theorem set_eq_setInPlace (p : FieldPath) (value : Json) (data : Object) :
    p.set value data = (onSuccess (p.setInPlace value data)).map Prod.snd := by
  rw [set, setInPlace, Json.write_eq_writeInPlace]
  generalize Json.writeInPlace p.text value p.segments (.obj data) = r
  obtain ⟨result, root⟩ := r
  cases result <;> rfl

theorem append_eq_appendInPlace (p : FieldPath) (item : Json) (data : Object) :
    p.append item data = onSuccess (p.appendInPlace item data) := by
  have hlist : ∀ start : Object,
      (p.focusList start >>= fun found =>
        .ok (found.1.length + 1, found.2 (found.1 ++ [item]))) =
      onSuccess (match p.focusList start with
        | .error e => (.error e, start)
        | .ok (items, put) => (.ok (items.length + 1), put (items ++ [item]))) := by
    intro start
    cases p.focusList start <;> rfl
  unfold append appendInPlace
  by_cases hvacant : p.isVacant data = true
  · simp only [hvacant, if_true, set_eq_setInPlace]
    generalize p.setInPlace (.arr []) data = r
    obtain ⟨made, start⟩ := r
    cases made with
    | error e => rfl
    | ok _ => exact hlist start
  · simp only [hvacant]
    exact hlist data

end FieldPath

end PageBuilder
