import PageBuilder.Document.Basic
import PageBuilder.Catalog.Lists
import PageBuilder.Path.Access

/-!
# Data of components

Operations on the data of one component of a document: writing a field, appending to a list,
removing from a list and changing the number of columns.  Each works on a copy and puts it in
place only if it succeeds, so a failed operation changes nothing.
-/

namespace PageBuilder

/-! ## Lists in data -/

namespace FieldPath

/-- The items of the list at a path, and what the data becomes with other items. -/
def focusList (p : FieldPath) (data : Object) : Except Error (List Json × (List Json → Object)) :=
  match p.focus? data with
  | some (.arr items, put) => .ok (items, fun items => put (.arr items))
  | _ => .error (.invalidPath (.notAList p.text))

/-- Whether nothing, or `null`, is at a path. -/
def isVacant (p : FieldPath) (data : Object) : Bool :=
  match p.get? data with
  | none => true
  | some .null => true
  | some _ => false

/-- Appends an item to the list at a path, which is made if nothing is there.  The length of the
list is returned. -/
def append (p : FieldPath) (item : Json) (data : Object) : Except Error (Nat × Object) := do
  let data ← if p.isVacant data then p.set (.arr []) data else .ok data
  let (items, put) ← p.focusList data
  .ok (items.length + 1, put (items ++ [item]))

/-- Removes an item from the list at a path, unless it is the only one. -/
def removeItem (p : FieldPath) (index : Nat) (data : Object) : Except Error (Json × Object) := do
  let (items, put) ← p.focusList data
  match items[index]? with
  | none => .error (.invalidPath (.noItem p.text index items.length))
  | some item =>
      if items.length ≤ minItems then .error (.lastItem p.text)
      else .ok (item, put (items.eraseIdx index))

end FieldPath

/-! ## Columns -/

/-- What a new column holds. -/
def newColumn : Json := .obj [("content", .str "Column content here")]

/-- Shortens a list to a length, or fills it up with an item. -/
def resize {α : Type} (count : Nat) (item : α) (items : List α) : List α :=
  items.take count ++ List.replicate (count - items.length) item

/-- Whether a columns component may have so many columns. -/
def isColumnCount (count : Nat) : Bool := columnLimits.1 ≤ count && count ≤ columnLimits.2

/-- The data of a columns component with another number of columns. -/
def withColumns (count : Nat) (data : Object) : Object :=
  let columns := resize count newColumn (data.list "columns")
  Object.insert "columnCount" (.nat count) (Object.insert "columns" (.arr columns) data)

/-! ## Operations -/

namespace Document

/-- Puts data in place of that of the first component with an id. -/
def replaceData (id : Nat) (data : Object) : List Component → List Component
  | [] => []
  | c :: rest => if c.id = id then { c with data } :: rest else c :: replaceData id data rest

/-- Changes the data of a component by an operation that may fail. -/
def updateData {α : Type} (d : Document) (id : Nat) (f : Object → Except Error (α × Object)) :
    Except Error α × Document :=
  match d.get? id with
  | none => (.error (.notFound id), d)
  | some c =>
      match f c.data with
      | .error e => (.error e, d)
      | .ok (a, data) => (.ok a, { d with components := replaceData id data d.components })

/-- Changes the data of a component at a path. -/
def updateAt {α : Type} (d : Document) (id : Nat) (path : String)
    (f : FieldPath → Object → Except Error (α × Object)) : Except Error α × Document :=
  match FieldPath.parse path with
  | .error e => (.error e, d)
  | .ok p => d.updateData id (f p)

/-- Writes a field. -/
def patch (d : Document) (id : Nat) (path : String) (value : Json) : Except Error Unit × Document :=
  d.updateAt id path fun p data => do return ((), ← p.set value data)

/-- Appends an item to a list and returns the length of the list. -/
def append (d : Document) (id : Nat) (list : String) (item : Json) : Except Error Nat × Document :=
  d.updateAt id list fun p => p.append item

/-- The item that is appended to a list of a component. -/
def defaultItem (d : Document) (id : Nat) (list : String) : Except Error Json :=
  match d.get? id with
  | none => .error (.notFound id)
  | some c =>
      match c.kind? with
      | none => .error (.unknownType c.typeName)
      | some kind =>
          match kind.defaultItem list c.data with
          | none => .error (.invalidPath (.unknownList kind.name list))
          | some item => .ok item

/-- Appends a new item to a list of a component and returns the length of the list. -/
def appendDefault (d : Document) (id : Nat) (list : String) : Except Error Nat × Document :=
  match d.defaultItem id list with
  | .error e => (.error e, d)
  | .ok item => d.append id list item

/-- Removes an item from a list and returns it. -/
def removeItem (d : Document) (id : Nat) (list : String) (index : Nat) :
    Except Error Json × Document :=
  d.updateAt id list fun p => p.removeItem index

/-- Changes the number of columns of a component. -/
def setColumnCount (d : Document) (id count : Nat) : Except Error Unit × Document :=
  if isColumnCount count then d.updateData id fun data => .ok ((), withColumns count data)
  else (.error (.invalidPath (.columnCount count)), d)

end Document

end PageBuilder
