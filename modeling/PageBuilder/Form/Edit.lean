import PageBuilder.Document.Data
import PageBuilder.Form.CommaList

/-!
# Edits

What a form asks for: one change of the data of one component.  An edit is a value, so it can be
sent, stored and read back; `Edit.apply` carries it out on a document, and leaves the document as
it was if it cannot be done.
-/

namespace PageBuilder

/-- A change of a component's data. -/
inductive Edit where
  | set (path : String) (value : Json)
  | setCommaList (path raw : String) (numeric : Bool)
  /-- Appends a new item to a list. -/
  | append (list : String)
  | remove (list : String) (index : Nat)
  | setColumnCount (count : Nat)

namespace Edit

/-! ## Carrying out an edit -/

/-- Forgets what an operation returned, but not whether it succeeded. -/
def withoutResult {α : Type} : Except Error α × Document → Except Error Unit × Document
  | (result, d) => (result.map fun _ => (), d)

/-- Carries out an edit on a component of a document. -/
def apply (e : Edit) (d : Document) (id : Nat) : Except Error Unit × Document :=
  match e with
  | .set path value => d.patch id path value
  | .setCommaList path raw numeric => d.patch id path (CommaList.stored raw numeric)
  | .append list => withoutResult (d.appendDefault id list)
  | .remove list index => withoutResult (d.removeItem id list index)
  | .setColumnCount count => d.setColumnCount id count

/-! ## Written form -/

/-- How an edit is written. -/
def toJson : Edit → Json
  | .set path value => .obj [("op", .str "set"), ("path", .str path), ("value", value)]
  | .setCommaList path raw numeric =>
      .obj [
        ("op", .str "set_comma_list"), ("path", .str path), ("raw", .str raw),
        ("numeric", .bool numeric)]
  | .append list => .obj [("op", .str "append_item"), ("list", .str list)]
  | .remove list index =>
      .obj [("op", .str "remove_item"), ("list", .str list), ("index", .nat index)]
  | .setColumnCount count => .obj [("op", .str "set_column_count"), ("count", .nat count)]

open Json Shape

/-- The shape of the members that an operation has beside its name. -/
def membersShape? : String → Option (Shape Edit)
  | "set" => some fun depth d => do
      let found ← record [required "path" text, required "value" any] depth d
      return .set (← found.get "path" text) (← found.get "value" any)
  | "set_comma_list" => some fun depth d => do
      let found ←
        record [required "path" text, required "raw" text, required "numeric" bool] depth d
      return .setCommaList (← found.get "path" text) (← found.get "raw" text)
        (← found.get "numeric" bool)
  | "append_item" => some fun depth d => do
      let found ← record [required "list" text] depth d
      return .append (← found.get "list" text)
  | "remove_item" => some fun depth d => do
      let found ← record [required "list" text, required "index" word] depth d
      return .remove (← found.get "list" text) (← found.get "index" word)
  | "set_column_count" => some fun depth d => do
      let found ← record [required "count" word] depth d
      return .setColumnCount (← found.get "count" word)
  | _ => none

/-- How an edit is read. -/
def shape : Shape Edit := tagged "op" membersShape?

end Edit

end PageBuilder
