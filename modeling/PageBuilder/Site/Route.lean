import PageBuilder.Text.Blank
import PageBuilder.Text.Percent

/-!
# Routes

What the path of a request names, and the methods each route takes.  A path is matched piece by
piece as it is written.  The pieces that are left open by a route are percent-encoded; the last
piece of a path is never empty.  A target is a path, or a scheme and an authority with a path after
them.
-/

namespace PageBuilder

/-- The methods that matter to a site. -/
inductive Method where
  | get
  | head
  | post
  | put
  | delete
  | other
deriving DecidableEq, Repr

/-- The method of a name. -/
def Method.ofName : String → Method
  | "GET" => .get
  | "HEAD" => .head
  | "POST" => .post
  | "PUT" => .put
  | "DELETE" => .delete
  | _ => .other

/-- What a path names.  The parts of a path that are left open are still encoded. -/
inductive Route where
  | index
  | preview (id : String)
  | projects
  | project (id : String)
  | exported (id format : String)
  | upload
  /-- An uploaded file; `path` is all that follows. -/
  | uploaded (path : String)
  | palette
  | template (name : String)
  | canvas
  | form
deriving DecidableEq, Repr

namespace Route

/-- The path of a target: what stands before a query or a fragment and after an authority.  After
an authority an empty path is the same as a slash. -/
def path (target : String) : List Char :=
  let cs := target.toList.takeWhile fun c => c != '?' && c != '#'
  match cs.takeWhile (· != '/'), cs.dropWhile (· != '/') with
  | scheme, '/' :: '/' :: rest =>
      if scheme.length > 1 && scheme.getLast? = some ':' then
        let path := rest.dropWhile (· != '/')
        if path.isEmpty then ['/'] else path
      else cs
  | _, _ => cs

/-- The route of some pieces of a path. -/
def ofPieces? : List String → Option Route
  | [""] => some .index
  | "uploads" :: rest => some (.uploaded ("/".intercalate rest))
  | pieces =>
      if pieces.getLast? = some "" then none
      else
        match pieces with
        | ["preview", id] => some (.preview id)
        | ["api", "projects"] => some .projects
        | ["api", "projects", id] => some (.project id)
        | ["api", "export", id, format] => some (.exported id format)
        | ["api", "upload"] => some .upload
        | ["api", "components"] => some .palette
        | ["api", "components", name] => some (.template name)
        | ["api", "render"] => some .canvas
        | ["api", "schema"] => some .form
        | _ => none

/-- The route that a target names. -/
def ofTarget? (target : String) : Option Route :=
  match path target with
  | '/' :: rest => ofPieces? (Text.splitAt '/' (String.ofList rest))
  | _ => none

/-- The methods a route takes.  Whatever can be got, its head can be got. -/
def methods : Route → List Method
  | .index | .preview _ | .exported _ _ | .uploaded _ | .palette | .template _ => [.get, .head]
  | .projects => [.get, .head, .post]
  | .project _ => [.get, .head, .put, .delete]
  | .upload | .canvas | .form => [.post]

/-! ## Open pieces -/

/-- The id in a path. -/
def id? (piece : String) : Option Nat := do
  Decimal.word? (← Text.percentDecode? piece).toList

/-- What a path under the uploads leads to. -/
inductive Upload where
  | file (name : String)
  /-- The folder of all uploads, without the slash that belongs behind a folder. -/
  | folder
  /-- A path that no file can have. -/
  | impossible
  | nothing
deriving DecidableEq, Repr

/-- The most bytes in the name of a file. -/
def maxFileName : Nat := 255

/-- The most bytes in the path of a file. -/
def maxFilePath : Nat := 4095

/-- Whether some pieces cannot be the path of a file below a folder: a null character is in them,
the first piece is too long for anything in the folder, or the path is too long as a whole. -/
def isImpossible (folder : String) (pieces : List String) : Bool :=
  pieces.any (·.toList.contains '\x00') ||
    pieces.head?.any (maxFileName < ·.utf8ByteSize) ||
    maxFilePath < ("/".intercalate (folder :: pieces)).utf8ByteSize

/-- What a path under the uploads leads to if the uploads are in a folder.  Empty pieces and single
points do not count; a file cannot be in any other place than the folder of the uploads. -/
def Upload.ofPath (folder path : String) : Upload :=
  match Text.percentDecode? (String.ofList (path.toList.dropWhile (· == '/'))) with
  | none => .nothing
  | some s =>
      let pieces := (Text.splitAt '/' s).filter fun piece => piece != "" && piece != "."
      if s.toList.head? = some '/' || pieces.contains ".." then .nothing
      else
        match pieces with
        | [] => if path.toList.getLast?.all (· == '/') then .nothing else .folder
        | [name] => if isImpossible folder pieces then .impossible else .file name
        | _ => if isImpossible folder pieces then .impossible else .nothing

example : ofTarget? "/api/projects/7?x" = some (.project "7") := by decide +kernel

example : ofTarget? "http://localhost:8080/api/projects" = some .projects := by decide +kernel

example : ofTarget? "http://localhost?x" = some .index := by decide +kernel

example : Upload.ofPath "uploads" "./a%2Epng/" = .file "a.png" := by decide +kernel

example : Upload.ofPath "uploads" "%2E" = .folder := by decide +kernel

example : Upload.ofPath "uploads" "x/../a.png" = .nothing := by decide +kernel

example : ofTarget? "/api/projects/" = none := by decide +kernel

end Route

end PageBuilder
