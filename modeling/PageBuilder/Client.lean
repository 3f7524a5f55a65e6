import PageBuilder.Project.Basic

/-!
# The project client

How an editor loads and saves a project over HTTP: the requests it makes, and what it takes the
responses to say.  A response that is no success is an error, worded by the `error` text of its
body if there is one and by its status otherwise.
-/

namespace PageBuilder

/-! ## Statuses -/

/-- What a status code means, for the codes that are registered. -/
def statusReason? : Nat → Option String
  | 100 => some "Continue"
  | 101 => some "Switching Protocols"
  | 102 => some "Processing"
  | 200 => some "OK"
  | 201 => some "Created"
  | 202 => some "Accepted"
  | 203 => some "Non Authoritative Information"
  | 204 => some "No Content"
  | 205 => some "Reset Content"
  | 206 => some "Partial Content"
  | 207 => some "Multi-Status"
  | 208 => some "Already Reported"
  | 226 => some "IM Used"
  | 300 => some "Multiple Choices"
  | 301 => some "Moved Permanently"
  | 302 => some "Found"
  | 303 => some "See Other"
  | 304 => some "Not Modified"
  | 305 => some "Use Proxy"
  | 307 => some "Temporary Redirect"
  | 308 => some "Permanent Redirect"
  | 400 => some "Bad Request"
  | 401 => some "Unauthorized"
  | 402 => some "Payment Required"
  | 403 => some "Forbidden"
  | 404 => some "Not Found"
  | 405 => some "Method Not Allowed"
  | 406 => some "Not Acceptable"
  | 407 => some "Proxy Authentication Required"
  | 408 => some "Request Timeout"
  | 409 => some "Conflict"
  | 410 => some "Gone"
  | 411 => some "Length Required"
  | 412 => some "Precondition Failed"
  | 413 => some "Payload Too Large"
  | 414 => some "URI Too Long"
  | 415 => some "Unsupported Media Type"
  | 416 => some "Range Not Satisfiable"
  | 417 => some "Expectation Failed"
  | 418 => some "I'm a teapot"
  | 421 => some "Misdirected Request"
  | 422 => some "Unprocessable Entity"
  | 423 => some "Locked"
  | 424 => some "Failed Dependency"
  | 425 => some "Too Early"
  | 426 => some "Upgrade Required"
  | 428 => some "Precondition Required"
  | 429 => some "Too Many Requests"
  | 431 => some "Request Header Fields Too Large"
  | 451 => some "Unavailable For Legal Reasons"
  | 500 => some "Internal Server Error"
  | 501 => some "Not Implemented"
  | 502 => some "Bad Gateway"
  | 503 => some "Service Unavailable"
  | 504 => some "Gateway Timeout"
  | 505 => some "HTTP Version Not Supported"
  | 506 => some "Variant Also Negotiates"
  | 507 => some "Insufficient Storage"
  | 508 => some "Loop Detected"
  | 510 => some "Not Extended"
  | 511 => some "Network Authentication Required"
  | _ => none

/-- A status as text. -/
def statusText (status : Nat) : String :=
  toString status ++ " " ++ (statusReason? status).getD "error"

/-! ## Requests and responses -/

/-- What a client sends. -/
structure ClientRequest where
  method : String
  url : String
  /-- The JSON that is sent; an uploaded file is none. -/
  body : Option Json

/-- What a client gets back. -/
structure ClientReply where
  status : Nat
  body : String

namespace ClientReply

/-- Whether the status is a success. -/
def isSuccess (r : ClientReply) : Bool := 200 ≤ r.status && r.status < 300

/-- The text of the body; a response with no content and one that nothing was modified have none. -/
def text (r : ClientReply) : String := if r.status = 204 || r.status = 304 then "" else r.body

open Json Shape in
/-- How a body with one text is read. -/
def textShape (name : String) : Shape String := fun depth d => do
  let found ← record [required name Shape.text] depth d
  found.get name Shape.text

/-- What a response that is no success says. -/
def complaint (r : ClientReply) : String :=
  match (textShape "error").read r.text with
  | .ok s => s
  | .error _ => statusText r.status

end ClientReply

/-! ## The client -/

/-- A client for one project. -/
structure Client where
  base : String
  project : Nat

namespace Client

/-- The client for a project at an address; slashes at its end do not count. -/
def ofAddress (address : String) (project : Nat) : Client :=
  ⟨String.ofList (address.toList.reverse.dropWhile (· == '/')).reverse, project⟩

/-- Where the project is. -/
def projectUrl (c : Client) : String := c.base ++ "/api/projects/" ++ toString c.project

/-- Where files are uploaded to. -/
def uploadUrl (c : Client) : String := c.base ++ "/api/upload"

/-- What is said of a body that cannot be read. -/
def undecodable : String := "undecodable"

/-- The request that loads the project. -/
def loadRequest (c : Client) : ClientRequest := ⟨"GET", c.projectUrl, none⟩

/-- The project that was loaded. -/
def loaded (r : ClientReply) : Except Error Project.Record :=
  if r.isSuccess then Project.Record.shape.read r.text |>.mapError fun _ => .transport undecodable
  else .error (.transport r.complaint)

/-- The request that saves the project. -/
def saveRequest (c : Client) (update : Project.Update) : ClientRequest :=
  ⟨"PUT", c.projectUrl, some update.toJson⟩

/-- Whether the project was saved. -/
def saved (r : ClientReply) : Except Error Unit :=
  if r.isSuccess then .ok () else .error (.saveFailed r.complaint)

/-- The request that uploads a file. -/
def uploadRequest (c : Client) : ClientRequest := ⟨"POST", c.uploadUrl, none⟩

/-- Where the file ended up. -/
def uploaded (r : ClientReply) : Except Error String :=
  if r.isSuccess then
    (ClientReply.textShape "url").read r.text |>.mapError fun _ => .uploadFailed undecodable
  else .error (.uploadFailed r.complaint)

end Client

end PageBuilder
