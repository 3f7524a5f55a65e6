import PageBuilder.Form.Edit
import PageBuilder.Proofs.Document.Operations

/-!
# Independence of components

An operation on the data of a component works on that component alone (`WorksOn`): what it answers
depends on nothing else of the document, and it changes nothing else.  This is so for appending a
new item too, which is made from the data of the component itself.  Hence two such operations on
different components can be done in either order, whether they succeed or fail
(`WorksOn.exchange`).
-/

namespace PageBuilder.Document

/-! ## Work on one component -/

/-- Carries out an operation on what the document has under an id. -/
def onComponent {α : Type} (id : Nat) (f : Option Component → Except Error (α × Object))
    (d : Document) : Except Error α × Document :=
  match f (d.get? id) with
  | .error e => (.error e, d)
  | .ok (a, data) => (.ok a, d.withData id data)

/-- An operation reads and writes what the document has under an id, and nothing else. -/
def WorksOn {α : Type} (id : Nat) (operation : Document → Except Error α × Document) : Prop :=
  ∃ f, ∀ d, operation d = d.onComponent id f

variable {α β : Type} {a b id : Nat}

/-- Works on the data of what was found under an id. -/
def onFound (id : Nat) (f : Object → Except Error (α × Object)) :
    Option Component → Except Error (α × Object)
  | none => .error (.notFound id)
  | some c => f c.data

theorem updateData_worksOn (id : Nat) (f : Object → Except Error (α × Object)) :
    WorksOn id fun d => d.updateData id f := by
  refine ⟨onFound id f, fun d => ?_⟩
  show d.updateData id f = _
  rw [updateData, onComponent]
  cases d.get? id with
  | none => rfl
  | some c => rfl

theorem failing_worksOn (id : Nat) (e : Error) :
    WorksOn id fun d => ((.error e, d) : Except Error α × Document) :=
  ⟨fun _ => .error e, fun _ => rfl⟩

theorem updateAt_worksOn (id : Nat) (path : String)
    (f : FieldPath → Object → Except Error (α × Object)) :
    WorksOn id fun d => d.updateAt id path f := by
  unfold updateAt
  cases FieldPath.parse path with
  | error e => exact failing_worksOn id e
  | ok p => exact updateData_worksOn id (f p)

/-- The new item of a list of what was found under an id. -/
def defaultItemOf (id : Nat) (list : String) : Option Component → Except Error Json
  | none => .error (.notFound id)
  | some c =>
      match c.kind? with
      | none => .error (.unknownType c.typeName)
      | some kind =>
          match kind.defaultItem list c.data with
          | none => .error (.invalidPath (.unknownList kind.name list))
          | some item => .ok item

/-- The item that is appended is made from the component it is appended to. -/
theorem appendDefault_worksOn (id : Nat) (list : String) :
    WorksOn id fun d => d.appendDefault id list := by
  have hitem : ∀ d : Document, d.defaultItem id list = defaultItemOf id list (d.get? id) :=
    fun _ => rfl
  have happend : ∀ value : Json, ∃ f, ∀ d : Document,
      d.append id list value = d.onComponent id f := fun value => updateAt_worksOn id list _
  choose append happend using happend
  refine ⟨fun found => do append (← defaultItemOf id list found) found, fun d => ?_⟩
  show d.appendDefault id list = _
  rw [appendDefault, onComponent, hitem]
  cases defaultItemOf id list (d.get? id) with
  | error e => rfl
  | ok value => exact happend value d

theorem setColumnCount_worksOn (id count : Nat) :
    WorksOn id fun d => d.setColumnCount id count := by
  unfold setColumnCount
  by_cases hcount : isColumnCount count
  · simp only [hcount, if_true]
    exact updateData_worksOn id _
  · simp only [hcount]
    exact failing_worksOn id _

theorem WorksOn.withoutResult {operation : Document → Except Error α × Document}
    (h : WorksOn id operation) : WorksOn id fun d => Edit.withoutResult (operation d) := by
  obtain ⟨f, hf⟩ := h
  refine ⟨fun found => (f found).map fun r => ((), r.2), fun d => ?_⟩
  show Edit.withoutResult (operation d) = _
  rw [hf, onComponent, onComponent]
  cases f (d.get? id) with
  | error e => rfl
  | ok r => rfl

/-! ## The operations on data -/

/-- An operation on the data of the component with an id. -/
inductive FieldOperation (id : Nat) :
    {α : Type} → (Document → Except Error α × Document) → Prop where
  | patch (path : String) (value : Json) : FieldOperation id fun d => d.patch id path value
  | append (list : String) (item : Json) : FieldOperation id fun d => d.append id list item
  | appendDefault (list : String) : FieldOperation id fun d => d.appendDefault id list
  | removeItem (list : String) (index : Nat) :
      FieldOperation id fun d => d.removeItem id list index
  | setColumnCount (count : Nat) : FieldOperation id fun d => d.setColumnCount id count
  | edit (change : Edit) : FieldOperation id fun d => change.apply d id

theorem FieldOperation.worksOn {operation : Document → Except Error α × Document}
    (h : FieldOperation id operation) : WorksOn id operation := by
  cases h with
  | patch path value => exact updateAt_worksOn id path _
  | append list item => exact updateAt_worksOn id list _
  | appendDefault list => exact appendDefault_worksOn id list
  | removeItem list index => exact updateAt_worksOn id list _
  | setColumnCount count => exact setColumnCount_worksOn id count
  | edit change =>
      cases change with
      | set path value => exact updateAt_worksOn id path _
      | setCommaList path raw numeric => exact updateAt_worksOn id path _
      | append list => exact (appendDefault_worksOn id list).withoutResult
      | remove list index => exact (updateAt_worksOn id list _).withoutResult
      | setColumnCount count => exact setColumnCount_worksOn id count

/-! ## What stays as it was -/

/-- Two documents differ at most in the data of the component with an id. -/
structure Frame (id : Nat) (d d' : Document) : Prop where
  labels : (d'.components.map fun c : Component => (c.id, c.typeName)) =
    d.components.map fun c => (c.id, c.typeName)
  others : ∀ (i : Nat) (c : Component), d.components[i]? = some c → c.id ≠ id →
    d'.components[i]? = some c
  selected : d'.selected = d.selected
  limit : d'.limit = d.limit
  nextId : d'.nextId = d.nextId

theorem Frame.refl (id : Nat) (d : Document) : Frame id d d :=
  ⟨rfl, fun _ _ h _ => h, rfl, rfl, rfl⟩

theorem labels_replaceData (id : Nat) (data : Object) (cs : List Component) :
    ((replaceData id data cs).map fun c => (c.id, c.typeName)) =
      cs.map fun c => (c.id, c.typeName) := by
  induction cs with
  | nil => rfl
  | cons c rest ih =>
      by_cases hc : c.id = id
      · simp [replaceData, hc]
      · simp [replaceData, hc, ih]

theorem frame_withData (id : Nat) (data : Object) (d : Document) :
    Frame id d (d.withData id data) where
  labels := labels_replaceData id data d.components
  others := by
    intro i c hc hne
    have hpos : position? id d.components ≠ some i := by
      intro hpos
      obtain ⟨found, hfound, hid⟩ := getElem?_of_position? hpos
      rw [hc] at hfound
      cases hfound
      exact hne hid
    rw [withData, getElem?_replaceData, hc, Option.map_some, if_neg hpos]
  selected := rfl
  limit := rfl
  nextId := rfl

theorem WorksOn.frame {operation : Document → Except Error α × Document}
    (h : WorksOn id operation) (d : Document) : Frame id d (operation d).2 := by
  obtain ⟨f, hf⟩ := h
  rw [hf, onComponent]
  cases f (d.get? id) with
  | error e => exact .refl id d
  | ok r => exact frame_withData id r.2 d

/-! ## Exchanging operations -/

theorem find?_replaceData_of_ne (h : b ≠ a) (data : Object) (cs : List Component) :
    (replaceData a data cs).find? (·.id == b) = cs.find? (·.id == b) := by
  induction cs with
  | nil => rfl
  | cons c rest ih =>
      by_cases hc : c.id = a
      · have hne : c.id ≠ b := fun he => h (he.symm.trans hc)
        simp [replaceData, hc, h.symm]
      · simp only [replaceData, hc, if_false, List.find?_cons, ih]

theorem get?_withData_of_ne (h : b ≠ a) (data : Object) (d : Document) :
    (d.withData a data).get? b = d.get? b :=
  find?_replaceData_of_ne h data d.components

theorem replaceData_comm (h : a ≠ b) (data other : Object) (cs : List Component) :
    replaceData a data (replaceData b other cs) = replaceData b other (replaceData a data cs) := by
  induction cs with
  | nil => rfl
  | cons c rest ih =>
      by_cases ha : c.id = a
      · have hb : c.id ≠ b := fun he => h (ha.symm.trans he)
        simp [replaceData, ha, h]
      · by_cases hb : c.id = b
        · simp [replaceData, hb, h.symm]
        · simp [replaceData, ha, hb, ih]

theorem withData_comm (h : a ≠ b) (data other : Object) (d : Document) :
    (d.withData b other).withData a data = (d.withData a data).withData b other := by
  simp only [withData, replaceData_comm h]

/-- What an operation on another component left behind does not matter to what is found. -/
theorem get?_onComponent_of_ne (h : b ≠ a) (f : Option Component → Except Error (α × Object))
    (d : Document) : (d.onComponent a f).2.get? b = d.get? b := by
  unfold onComponent
  cases f (d.get? a) with
  | error e => rfl
  | ok r => exact get?_withData_of_ne h r.2 d

/-- Operations on different components can be done in either order. -/
theorem WorksOn.exchange {first : Document → Except Error α × Document}
    {second : Document → Except Error β × Document} (hfirst : WorksOn a first)
    (hsecond : WorksOn b second) (h : a ≠ b) (d : Document) :
    (first (second d).2).1 = (first d).1 ∧ (second (first d).2).1 = (second d).1 ∧
      (first (second d).2).2 = (second (first d).2).2 := by
  obtain ⟨f, hf⟩ := hfirst
  obtain ⟨g, hg⟩ := hsecond
  have hfound := get?_onComponent_of_ne h g d
  have hfound' := get?_onComponent_of_ne h.symm f d
  simp only [hf, hg]
  unfold onComponent at hfound hfound' ⊢
  rw [hfound, hfound']
  cases f (d.get? a) with
  | error e =>
      cases g (d.get? b) with
      | error e' => exact ⟨rfl, rfl, rfl⟩
      | ok s => exact ⟨rfl, rfl, rfl⟩
  | ok r =>
      cases g (d.get? b) with
      | error e' => exact ⟨rfl, rfl, rfl⟩
      | ok s => exact ⟨rfl, rfl, withData_comm h r.2 s.2 d⟩

/-- An operation on the data of a component leaves the ids, the kinds and the order of all
components, the data of all others, the selection, the limit and the next id.  Two such operations
on different components lead to the same document in either order, and each of them has the same
outcome in either order. -/
theorem independent_of_fields {first : Document → Except Error α × Document}
    {second : Document → Except Error β × Document} (hfirst : FieldOperation a first)
    (hsecond : FieldOperation b second) (d : Document) :
    Frame a d (first d).2 ∧ Frame b d (second d).2 ∧
    (a ≠ b →
      (first (second d).2).1 = (first d).1 ∧ (second (first d).2).1 = (second d).1 ∧
        (first (second d).2).2 = (second (first d).2).2) :=
  ⟨hfirst.worksOn.frame d, hsecond.worksOn.frame d,
    fun h => hfirst.worksOn.exchange hsecond.worksOn h d⟩

/-- Tabs and columns on one page: a new tab and a number of columns that cannot be. -/
theorem independent_of_fields_tabs :
    let d := (((empty 5).add "tabs").2.add "columns").2
    let first := fun d : Document => d.appendDefault 1 "tabs"
    let second := fun d : Document => (Edit.setColumnCount 9).apply d 2
    FieldOperation 1 first ∧ FieldOperation 2 second ∧ (1 : Nat) ≠ 2 ∧
    (first (second d).2).1 = .ok 4 ∧
    (second (first d).2).1 = .error (.invalidPath (.columnCount 9)) ∧
    (first (second d).2).2 = (second (first d).2).2 ∧ Frame 1 d (first d).2 := by
  intro d first second
  have hfirst : FieldOperation 1 first := .appendDefault "tabs"
  have hsecond : FieldOperation 2 second := .edit (.setColumnCount 9)
  obtain ⟨hframe, _, hexchange⟩ := independent_of_fields hfirst hsecond d
  obtain ⟨hanswer, hanswer', hdocument⟩ := hexchange (by decide)
  have hok : (first d).1 = .ok 4 := by decide +kernel
  have herror : (second d).1 = .error (.invalidPath (.columnCount 9)) := by decide +kernel
  exact ⟨hfirst, hsecond, by decide, hanswer.trans hok, hanswer'.trans herror, hdocument, hframe⟩

end PageBuilder.Document
