import PageBuilder.Component
import PageBuilder.Catalog.Template
import PageBuilder.Error

/-!
# Documents

A document is the ordered list of the components of a page, with the one that is selected, the
number of components the plan allows and the next free id.  Ids identify components: an operation
that adds one takes an id that was never given out before, and numbers all components anew when
the ids run out.

An operation that fails returns the document as it was.
-/

namespace PageBuilder

/-- The components of a page and the state of its editor. -/
structure Document where
  components : List Component
  selected : Option Nat
  limit : Nat
  /-- The id of the next component; greater than all ids in use. -/
  nextId : Nat

/-- Where a component is moved. -/
inductive Direction where
  | up
  | down
deriving DecidableEq, Repr

/-- The direction of a name. -/
def Direction.ofName? : String → Option Direction
  | "up" => some .up
  | "down" => some .down
  | _ => none

namespace Document

/-- The document without components. -/
def empty (limit : Nat) : Document := ⟨[], none, limit, 1⟩

/-! ## Numbering -/

/-- Numbers components upwards from `id`. -/
def numberFrom (id : Nat) : List Component → List Component
  | [] => []
  | c :: rest => { c with id } :: numberFrom (id + 1) rest

/-- The position of the component with an id. -/
def position? (id : Nat) (components : List Component) : Option Nat :=
  components.findIdx? (·.id == id)

/-- Numbers all components 1, 2, 3, … in their order.  The selection stays on its component. -/
def renumber (d : Document) : Document :=
  { d with
    components := numberFrom 1 d.components
    selected := (d.selected.bind (position? · d.components)).map (· + 1)
    nextId := d.components.length + 1 }

/-- Gives the next free id to each component whose id was `seen` before.  The free ids start at
`nextId`; the second result is the first one that is left. -/
def separate (nextId : Nat) (seen : List Nat) : List Component → List Component × Nat
  | [] => ([], nextId)
  | c :: rest =>
      if seen.contains c.id then
        let (others, free) := separate (nextId + 1) (nextId :: seen) rest
        ({ c with id := nextId } :: others, free)
      else
        let (others, free) := separate nextId (c.id :: seen) rest
        (c :: others, free)

/-- The greatest id in use. -/
def maxId (components : List Component) : Nat := components.foldl (fun n c => max n c.id) 0

/-- The document of components that were stored.  Ids are kept; an id that is there twice is
replaced by a free one.  If there may not be enough ids above the greatest one, all components are
numbered anew. -/
def ofComponents (components : List Component) (limit : Nat) : Document :=
  let greatest := maxId components
  if maxWord < greatest + (components.length + 1) then
    renumber ⟨components, none, limit, 1⟩
  else
    let (components, nextId) := separate (greatest + 1) [] components
    ⟨components, none, limit, nextId⟩

/-! ## Views -/

/-- The component with an id. -/
def get? (d : Document) (id : Nat) : Option Component := d.components.find? (·.id == id)

/-- The component that is selected. -/
def selectedComponent? (d : Document) : Option Component := d.selected.bind d.get?

/-- Changes how many components the plan allows; none is taken away. -/
def setLimit (d : Document) (limit : Nat) : Document := { d with limit }

/-! ## Components -/

/-- Adds a component of a kind, with the data of its template, and returns its id. -/
def add (d : Document) (typeName : String) : Except Error Nat × Document :=
  if d.limit ≤ d.components.length then (.error (.limitReached d.limit), d)
  else
    match Kind.ofName? typeName with
    | none => (.error (.unknownType typeName), d)
    | some kind =>
        let d := if d.nextId = maxWord then d.renumber else d
        let added : Component := ⟨d.nextId, kind.name, kind.template⟩
        (.ok d.nextId,
          { d with components := d.components ++ [added], nextId := d.nextId + 1 })

/-- Exchanges the items at a position and the next one. -/
def swapAt {α : Type} : Nat → List α → List α
  | 0, a :: b :: rest => b :: a :: rest
  | n + 1, a :: rest => a :: swapAt n rest
  | _, xs => xs

/-- The position before the pair of components that a move exchanges. -/
def swapPosition? (direction : Direction) (index length : Nat) : Option Nat :=
  match direction with
  | .up => if 0 < index then some (index - 1) else none
  | .down => if index + 1 < length then some index else none

/-- Exchanges a component with its neighbour.  Whether there was one to exchange it with. -/
def move (d : Document) (id : Nat) (direction : Direction) : Bool × Document :=
  let target :=
    (position? id d.components).bind fun index =>
      swapPosition? direction index d.components.length
  match target with
  | some index => (true, { d with components := swapAt index d.components })
  | none => (false, d)

/-- Removes a component and returns it. -/
def remove (d : Document) (id : Nat) : Option Component × Document :=
  match d.get? id with
  | none => (none, d)
  | some c =>
      (some c,
        { d with
          components := d.components.eraseP (·.id == id)
          selected := if d.selected = some id then none else d.selected })

/-- Removes every component. -/
def clear (d : Document) : Document := { d with components := [], selected := none }

/-- Selects a component, or none.  Whether it is there to be selected. -/
def select (d : Document) (id : Option Nat) : Bool × Document :=
  match id with
  | none => (true, { d with selected := none })
  | some id =>
      if (d.get? id).isSome then (true, { d with selected := some id }) else (false, d)

end Document

end PageBuilder
