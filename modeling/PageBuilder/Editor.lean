import PageBuilder.Form.Of
import PageBuilder.Page
import PageBuilder.Project.Basic
import PageBuilder.Saving.Timeline

/-!
# The editor

An open project: its document, name and settings, and the saving of them.  Whatever changes what
would be saved schedules a save of it; an operation that fails or changes nothing schedules none.
-/

namespace PageBuilder

/-- An open project. -/
structure Editor where
  document : Document
  name : String
  settings : Settings
  saving : Timeline Project.Update

namespace Editor

/-- Opens a project.  `limit` is how many components the plan allows, `delay` how long a change
waits to be saved, and `replies` how the store behaves. -/
def ofProject (p : Project) (limit delay : Nat) (replies : List StoreReply) : Editor :=
  { document := p.document limit
    name := p.name
    settings := p.settings
    saving := .start delay replies }

/-- What would be saved now. -/
def snapshot (e : Editor) : Project.Update :=
  .of e.name e.document.components e.settings

/-! ## Changes -/

/-- Schedules a save. -/
def changed (e : Editor) : Editor := { e with saving := e.saving.schedule e.snapshot }

/-- Takes over the document that an operation left, and schedules a save if it succeeded. -/
def attempt {α : Type} (e : Editor) : Except Error α × Document → Except Error α × Editor
  | (.ok a, document) => (.ok a, { e with document }.changed)
  | (.error error, document) => (.error error, { e with document })

/-- Adds a component of a kind and returns its id. -/
def add (e : Editor) (typeName : String) : Except Error Nat × Editor :=
  e.attempt (e.document.add typeName)

/-- Moves a component.  Whether it moved. -/
def move (e : Editor) (id : Nat) (direction : Direction) : Bool × Editor :=
  match e.document.move id direction with
  | (true, document) => (true, { e with document }.changed)
  | (false, document) => (false, { e with document })

/-- Removes a component and returns it. -/
def remove (e : Editor) (id : Nat) : Option Component × Editor :=
  match e.document.remove id with
  | (some c, document) => (some c, { e with document }.changed)
  | (none, document) => (none, { e with document })

/-- Removes every component. -/
def clear (e : Editor) : Editor := { e with document := e.document.clear }.changed

/-- Selects a component, or none.  What is selected is not saved. -/
def select (e : Editor) (id : Option Nat) : Bool × Editor :=
  let (found, document) := e.document.select id
  (found, { e with document })

/-- Writes a field of a component. -/
def patch (e : Editor) (id : Nat) (path : String) (value : Json) : Except Error Unit × Editor :=
  e.attempt (e.document.patch id path value)

/-- Carries out what a form asks for. -/
def edit (e : Editor) (id : Nat) (edit : Edit) : Except Error Unit × Editor :=
  e.attempt (edit.apply e.document id)

/-- Changes the name of the project. -/
def rename (e : Editor) (name : String) : Editor := { e with name := Text.trim name }.changed

/-- Changes the settings of the page. -/
def setSettings (e : Editor) (settings : Settings) : Editor := { e with settings }.changed

/-! ## Uploads -/

/-- Writes the place of an uploaded file into a field.  `upload` is how the upload goes, `none` if
files cannot be uploaded at all. -/
def upload (e : Editor) (id : Nat) (path : String) (upload : Option (Except Error String)) :
    Except Error String × Editor :=
  match upload with
  | none => (.error (.uploadFailed "no uploader configured"), e)
  | some result =>
      if (e.document.get? id).isNone then (.error (.notFound id), e)
      else
        match result with
        | .error error => (.error error, e)
        | .ok url =>
            let (written, e) := e.patch id path (.str url)
            (written.map fun _ => url, e)

/-! ## Saving -/

/-- Saves now and waits until that is done. -/
def flush (e : Editor) : Except Error Unit × Editor :=
  let (result, saving) := e.saving.flush e.snapshot
  (result, { e with saving })

/-- Lets time pass. -/
def advance (e : Editor) (time : Nat) : Editor := { e with saving := e.saving.advance time }

/-! ## Views -/

/-- The canvas. -/
def canvas (e : Editor) : Markup.Node := Canvas.of e.document.components e.document.selected

/-- The form of the selected component. -/
def form? (e : Editor) : Option Form := e.document.selectedComponent?.bind Form.of?

/-- The page as it is exported. -/
def html (e : Editor) : String := Page.html e.document.components e.settings

end Editor

end PageBuilder
