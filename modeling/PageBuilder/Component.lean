import PageBuilder.Catalog.Kind
import PageBuilder.Json.Shape

/-!
# Components

A component is one building block placed on a page: its id, the name of its kind and its data.
The name need not be one of the catalog; such a component is kept as it is.
-/

namespace PageBuilder

/-- A building block on a page. -/
structure Component where
  id : Nat
  typeName : String
  data : Object

namespace Component

/-- The kind of a component, if its name is in the catalog. -/
def kind? (c : Component) : Option Kind := Kind.ofName? c.typeName

/-- How a component is stored. -/
def toJson (c : Component) : Json :=
  .obj [("id", .nat c.id), ("type", .str c.typeName), ("data", .obj c.data)]

/-- How some components are stored. -/
def listToJson (components : List Component) : Json := .arr (components.map toJson)

open Json Shape in
/-- How a component is read; without data it has none. -/
def shape : Shape Component := fun depth d => do
  let found ← record [required "id" word, required "type" text, optional "data" object] depth d
  let id ← found.get "id" word
  let typeName ← found.get "type" text
  let data ← found.getD "data" object []
  return ⟨id, typeName, data⟩

end Component

end PageBuilder
