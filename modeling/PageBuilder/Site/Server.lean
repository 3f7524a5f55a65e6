import PageBuilder.Form.Writer
import PageBuilder.Site.IndexPage
import PageBuilder.Site.MediaType
import PageBuilder.Site.Route

/-!
# Serving a site

Requests to a site and its responses (`Site.respond`).  Of several faults of a request the first of
these counts: a path that names nothing, a method the route does not take, a path whose open pieces
cannot be read, and a body that cannot be read.  A JSON body is read as the first value of its
text; what follows it does not count.
-/

namespace PageBuilder

open Json Shape

/-! ## Requests and responses -/

/-- A request. -/
structure Request where
  method : Method
  target : String
  contentType : Option String
  body : String

/-- What a response carries. -/
inductive Payload where
  | nothing
  | json (v : Json)
  | html (s : String)
  | plain (s : String)
  | file (mediaType content : String)

/-- What is carried if only the head is asked for: of a page or a file there is still the media
type. -/
def Payload.head : Payload → Payload
  | .html _ => .html ""
  | .file mediaType _ => .file mediaType ""
  | _ => .nothing

/-- A response. -/
structure Response where
  status : Status
  payload : Payload
  /-- Whether the response may run no script. -/
  sandboxed : Bool := false

namespace Response

/-- A response without a body. -/
def bare (status : Status) : Response := { status, payload := .nothing }

/-- A response with JSON. -/
def ofJson (v : Json) : Response := { status := .ok, payload := .json v }

/-- A response with a page. -/
def ofPage (html : String) : Response := { status := .ok, payload := .html html }

/-- A response that says why a request is refused. -/
def ofRefusal (r : Refusal) : Response :=
  { status := r.status, payload := .json (.obj [("error", .str r.message)]) }

/-- The response to a request that was carried out or refused. -/
def ofResult {α : Type} (write : α → Json) : Except Refusal α → Response
  | .ok a => .ofJson (write a)
  | .error r => .ofRefusal r

end Response

namespace Request

/-- The media type of the body. -/
def mediaType? (r : Request) : Option MediaType := r.contentType.bind MediaType.parse?

/-- Reads a JSON body, or says with which status it is refused. -/
def json {α : Type} (r : Request) (shape : Shape α) : Except Status α :=
  if (r.mediaType?.map MediaType.isJson).getD false then
    match shape maxDepth (Draft.ofText r.body).1 with
    | .ok a => .ok a
    | .error .malformed => .error .badRequest
    | .error .mismatch => .error .unprocessable
  else .error .unsupportedMediaType

/-- Reads a body that is form data. -/
def form? (r : Request) : Option FormData := do
  let boundary ← (← r.mediaType?).formBoundary?
  return .read boundary r.body

end Request

/-! ## Bodies -/

namespace Body

/-- The name of a project to be created. -/
def newProject : Shape String := fun depth d => do
  let found ← record [optional "name" text] depth d
  found.getD "name" text Project.defaultName

/-- The components of a canvas and the one that is selected. -/
def canvas : Shape (List Component × Option Nat) := fun depth d => do
  let found ←
    record
      [required "instances" (list Component.shape), optional "selected" (nullable word)] depth d
  return (← found.get "instances" (list Component.shape),
    ← found.getD "selected" (nullable word) none)

/-- A component and an edit of it. -/
def edited : Shape (Component × Option Edit) := fun depth d => do
  let found ←
    record
      [required "instance" Component.shape, optional "edit" (nullable Edit.shape)] depth d
  return (← found.get "instance" Component.shape,
    ← found.getD "edit" (nullable Edit.shape) none)

/-- What is said of a change that was made. -/
def success : Json := .obj [("success", .bool true)]

/-- A project in a list. -/
def summary (r : Project.Record) : Json := .obj [("id", .nat r.id), ("name", .str r.name)]

/-- A page that was exported or drawn. -/
def html (s : String) : Json := .obj [("html", .str s)]

end Body

/-! ## Responding -/

namespace Site

/-- Reads the JSON body of a request and goes on with it. -/
def withJson {α : Type} (s : Site) (r : Request) (shape : Shape α)
    (next : α → Response × Site) : Response × Site :=
  match r.json shape with
  | .ok a => next a
  | .error status => (.bare status, s)

/-- Reads the id in a path and goes on with it. -/
def withId (s : Site) (piece : String) (next : Nat → Response × Site) : Response × Site :=
  match Route.id? piece with
  | some id => next id
  | none => (.bare .badRequest, s)

/-- The response to a request for a preview. -/
def previewResponse (s : Site) (id : Nat) : Response :=
  match s.preview? id with
  | some html => .ofPage html
  | none => { status := .notFound, payload := .plain "Project not found" }

/-- The response to a request for an uploaded file.  No such file may run a script. -/
def uploadedResponse (s : Site) (path : String) : Response :=
  let bare (status : Status) : Response := { status, payload := .nothing, sandboxed := true }
  match Route.Upload.ofPath s.folder path with
  | .nothing => bare .notFound
  | .folder => bare .temporaryRedirect
  | .impossible => bare .serverError
  | .file name =>
      match s.uploads.lookup name with
      | none => bare .notFound
      | some content =>
          let mediaType := (ImageFile.mediaType? name).getD "application/octet-stream"
          { status := .ok, payload := .file mediaType content, sandboxed := true }

/-- The response to a request for an export. -/
def exportResponse (s : Site) (id format : String) : Response × Site :=
  s.withId id fun id =>
    match Text.percentDecode? format with
    | some format => (.ofResult Body.html (s.exportPage id format), s)
    | none => (.bare .badRequest, s)

/-- The response to a request for a template. -/
def templateResponse (name : String) : Response :=
  match Text.percentDecode? name with
  | none => .bare .badRequest
  | some name =>
      match Kind.ofName? name with
      | some kind => .ofJson kind.templateJson
      | none => .ofRefusal (.failed (.unknownType name))

/-- The response to a request for a form. -/
def formResponse (c : Component) (edit : Option Edit) : Response :=
  match editedForm c edit with
  | .ok (c, form) => .ofJson (.obj [("instance", c.toJson), ("form", form.toJson)])
  | .error e => .ofRefusal (.failed e)

/-- Carries out a request with a method that its route takes; the head of something is taken as the
thing itself. -/
def carryOut (s : Site) (o : Occasion) (r : Request) : Route → Response × Site
  | .index => (.ofPage s.indexPage, s)
  | .preview id => s.withId id fun id => (s.previewResponse id, s)
  | .projects =>
      if r.method = .post then
        s.withJson r Body.newProject fun name =>
          let (result, s) := s.create o name
          (.ofResult (Body.summary ·.record) result, s)
      else (.ofJson (.arr (s.store.records.map Body.summary)), s)
  | .project id =>
      s.withId id fun id =>
        match r.method with
        | .put =>
            s.withJson r Project.Update.shape fun u =>
              let (result, s) := s.save o id u
              (.ofResult (fun _ => Body.success) result, s)
        | .delete =>
            let (result, s) := s.delete o id
            (.ofResult (fun _ => Body.success) result, s)
        | _ => (.ofResult Project.Record.toJson (s.record id), s)
  | .exported id format => s.exportResponse id format
  | .upload =>
      match r.form? with
      | none => (.bare .badRequest, s)
      | some form =>
          let (result, s) := s.upload o form
          (.ofResult (fun url => .obj [("url", .str url)]) result, s)
  | .uploaded path => (s.uploadedResponse path, s)
  | .palette => (.ofJson Kind.palette, s)
  | .template name => (templateResponse name, s)
  | .canvas =>
      s.withJson r Body.canvas fun (components, selected) =>
        (.ofJson (Body.html (Canvas.of components selected).html), s)
  | .form => s.withJson r Body.edited fun (c, edit) => (formResponse c edit, s)

/-- Responds to a request. -/
def respond (s : Site) (o : Occasion) (r : Request) : Response × Site :=
  match Route.ofTarget? r.target with
  | none => (.bare .notFound, s)
  | some route =>
      if r.method ∈ route.methods then
        let (response, s) := s.carryOut o r route
        if r.method = .head then ({ response with payload := response.payload.head }, s)
        else (response, s)
      else
        let sandboxed := route matches .uploaded _
        ({ status := .methodNotAllowed, payload := .nothing, sandboxed }, s)

end Site

end PageBuilder
