import PageBuilder.Document.Basic
import PageBuilder.Settings
import PageBuilder.Json.Writer

/-!
# Projects

A project is kept as a record whose content and settings are themselves JSON texts.  Reading is
forgiving: content that cannot be read opens as an empty page, and settings that cannot be read as
the defaults.  What a document was saved as reads back as the same components and settings.
-/

namespace PageBuilder

/-- A project that was opened. -/
structure Project where
  id : Nat
  name : String
  components : List Component
  settings : Settings

namespace Project

/-- The name of a project that was given none. -/
def defaultName : String := "Untitled Project"

/-! ## Content and settings as texts -/

/-- Reads a part of a stored project, `none` and blank texts as `default`. -/
def decodePart {α : Type} (part : StatePart) (shape : Json.Shape α) (default : α) :
    Option String → Except Error α
  | none => .ok default
  | some s =>
      if (Text.trim s).isEmpty then .ok default
      else (shape.read s).mapError fun _ => .malformedState part

/-- Reads the components of a page. -/
def decodeContent : Option String → Except Error (List Component) :=
  decodePart .content (.list Component.shape) []

/-- Reads the settings of a page. -/
def decodeSettings : Option String → Except Error Settings :=
  decodePart .settings Settings.shape {}

/-- How many items a content has, whatever they are.  A blank text is no content here. -/
def contentLength (content : String) : Except Error Nat :=
  match (Json.Shape.list .any).read content with
  | .ok items => .ok items.length
  | .error _ => .error (.malformedState .content)

/-- The text that components are stored as. -/
def encodeContent (components : List Component) : String :=
  (Component.listToJson components).compact

/-- The text that settings are stored as. -/
def encodeSettings (settings : Settings) : String := settings.toJson.compact

/-! ## Records -/

/-- A project as it is stored. -/
structure Record where
  id : Nat
  name : String
  content : Option String
  settings : Option String
deriving DecidableEq, Repr

/-- What a save changes; a part that is `none` stays as it is. -/
structure Update where
  name : Option String
  content : Option String
  settings : Option String
deriving DecidableEq, Repr

/-- The document of a project. -/
def document (p : Project) (limit : Nat) : Document := .ofComponents p.components limit

/-- An optional text. -/
def optionalText : Option String → Json
  | some s => .str s
  | none => .null

namespace Record

/-- A new project, which has neither content nor settings yet. -/
def new (id : Nat) (name : String) : Record :=
  let name := Text.trim name
  ⟨id, if name.isEmpty then defaultName else name, none, none⟩

/-- Opens a project. -/
def project (r : Record) : Project :=
  { id := r.id
    name := r.name
    components := (decodeContent r.content).toOption.getD []
    settings := (decodeSettings r.settings).toOption.getD {} }

/-- Takes over what was saved. -/
def apply (r : Record) (u : Update) : Record :=
  { id := r.id
    name := (u.name.map Text.trim).getD r.name
    content := u.content <|> r.content
    settings := u.settings <|> r.settings }

/-- The members a record is written with. -/
def members (r : Record) : List (String × Json) :=
  [("id", .nat r.id), ("name", .str r.name), ("content", optionalText r.content),
    ("settings", optionalText r.settings)]

/-- How a record is written. -/
def toJson (r : Record) : Json := .obj r.members

open Json Shape in
/-- The members a record is read from. -/
def memberShapes : List Member :=
  [optional "id" word, optional "name" text, optional "content" (nullable text),
    optional "settings" (nullable text)]

open Json Shape in
/-- The record with the members found. -/
def ofFound (found : Found) : Except Fault Record := do
  return {
    id := ← found.getD "id" word 0
    name := ← found.getD "name" text defaultName
    content := ← found.getD "content" (nullable text) none
    settings := ← found.getD "settings" (nullable text) none }

/-- How a record is read. -/
def shape : Json.Shape Record := fun depth d => do
  ofFound (← Json.Shape.record memberShapes depth d)

end Record

namespace Update

/-- The save of a page as it is. -/
def of (name : String) (components : List Component) (settings : Settings) : Update :=
  ⟨some name, some (encodeContent components), some (encodeSettings settings)⟩

/-- How an update is written; what it leaves alone is left out. -/
def toJson (u : Update) : Json :=
  .obj <|
    [("name", u.name), ("content", u.content), ("settings", u.settings)].filterMap
      fun (key, value) => value.map fun s => (key, .str s)

open Json Shape in
/-- How an update is read. -/
def shape : Shape Update := fun depth d => do
  let found ←
    record
      [optional "name" (nullable text), optional "content" (nullable text),
        optional "settings" (nullable text)]
      depth d
  return {
    name := ← found.getD "name" (nullable text) none
    content := ← found.getD "content" (nullable text) none
    settings := ← found.getD "settings" (nullable text) none }

end Update

end Project

end PageBuilder
