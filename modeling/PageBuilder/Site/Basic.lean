import PageBuilder.Editor
import PageBuilder.Site.FormData
import PageBuilder.Site.Refusal
import PageBuilder.Site.Store

/-!
# Sites

A site keeps projects and uploaded images for an owner with a plan.  This module holds what a site
does when it is asked to, in terms of projects and components; how requests are read and responses
written is told elsewhere.

A request that is refused leaves the site as it was, except for a deletion whose file cannot be
removed.
-/

namespace PageBuilder

/-- A site. -/
structure Site where
  store : Store
  /-- The moment the site was started, in seconds. -/
  booted : Nat
  /-- The path of the folder that holds the uploaded files. -/
  folder : String
  /-- The uploaded files by name. -/
  uploads : List (String × String)

namespace Site

/-! ## Starting -/

/-- A site that has just been started.  With a disk it has the projects that are on it. -/
def start (plan : Plan) (disk : Option Disk) (booted : Nat) (folder : String) : Site :=
  { store :=
      match disk with
      | some disk => .load plan disk
      | none => .empty plan none
    booted
    folder
    uploads := [] }

/-- The site after it was started anew.  Uploaded files stay. -/
def restart (s : Site) : Site :=
  { start s.store.plan s.store.disk s.booted s.folder with uploads := s.uploads }

/-! ## Projects -/

/-- A store's answer, as the site gives it. -/
def withStore {α : Type} (s : Site) (refuse : Error → Refusal) :
    Except Error α × Store → Except Refusal α × Site
  | (result, store) => (result.mapError refuse, { s with store })

/-- Creates a project. -/
def create (s : Site) (o : Occasion) (name : String) : Except Refusal StoredProject × Site :=
  let refuse : Error → Refusal
    | .limitReached _ => .tooManyProjects
    | e => .failed e
  s.withStore refuse (s.store.create o name)

/-- The record of a project. -/
def record (s : Site) (id : Nat) : Except Refusal Project.Record :=
  match s.store.get? id with
  | some p => .ok p.record
  | none => .error (.failed (.notFound id))

/-- Whether an update may be saved: its content, if it has any, holds no more items than the plan
allows. -/
def checkUpdate (plan : Plan) (u : Project.Update) : Except Refusal Unit := do
  match u.content with
  | none => .ok ()
  | some content =>
      let length ← (Project.contentLength content).mapError .failed
      if plan.componentLimit < length then .error (.tooManyComponents plan) else .ok ()

/-- Saves a project. -/
def save (s : Site) (o : Occasion) (id : Nat) (u : Project.Update) : Except Refusal Unit × Site :=
  match checkUpdate s.store.plan u with
  | .error refusal => (.error refusal, s)
  | .ok () =>
      let (result, store) := s.store.save o id u
      s.withStore .failed (result.map fun _ => (), store)

/-- Deletes a project. -/
def delete (s : Site) (o : Occasion) (id : Nat) : Except Refusal Unit × Site :=
  s.withStore .failed (s.store.delete o id)

/-! ## Pages -/

/-- The page of a stored project. -/
def pageOf (r : Project.Record) : String :=
  let p := r.project
  Page.html p.components p.settings

/-- The page of a project, for a preview. -/
def preview? (s : Site) (id : Nat) : Option String := (s.store.get? id).map (pageOf ·.record)

/-- The page of a project, for an export.  HTML is the only format. -/
def exportPage (s : Site) (id : Nat) (format : String) : Except Refusal String := do
  if format ≠ "html" then .error .unknownFormat
  else return pageOf (← s.record id)

/-! ## Editing -/

/-- A component after an edit, if there is one to make, and its form.  The component is put on a
page of its own, so an id that no page could continue from is replaced. -/
def editedForm (c : Component) (edit : Option Edit) : Except Error (Component × Form) := do
  let page := Document.ofComponents [c] 1
  let page ←
    match edit with
    | none => .ok page
    | some edit =>
        let (result, page) := edit.apply page c.id
        result.map fun _ => page
  match page.components.getLast? with
  | none => .error (.notFound c.id)
  | some c =>
      match Form.of? c with
      | none => .error (.unknownType c.typeName)
      | some form => .ok (c, form)

/-! ## Images -/

/-- The uploaded file of a form: its name and content. -/
def uploadedFile (form : FormData) : Except Refusal (String × String) :=
  match form.part? "file" with
  | none => .error (if form.complete then .noFile else .unreadableForm)
  | some part =>
      match part.content with
      | none => .error .unreadableFile
      | some content => .ok (part.fileName.getD "", content)

/-- Takes an uploaded image and returns where it is served. -/
def upload (s : Site) (o : Occasion) (form : FormData) : Except Refusal String × Site :=
  let taken := do
    let (name, content) ← uploadedFile form
    if name.isEmpty then .error .noFileName
    else
      match ImageFile.allowedExtension? name with
      | none => .error .fileTypeNotAllowed
      | some extension => .ok (o.freshName ++ "." ++ extension, content)
  match taken with
  | .error refusal => (.error refusal, s)
  | .ok (name, content) =>
      (.ok ("/uploads/" ++ name), { s with uploads := (name, content) :: s.uploads })

end Site

end PageBuilder
