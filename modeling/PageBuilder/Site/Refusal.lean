import PageBuilder.Error
import PageBuilder.Site.Plan
import PageBuilder.Site.ImageFile

/-!
# Refusals

Why a site does not do what a request asks for, with the wording and the status of each cause.
-/

namespace PageBuilder

/-- The statuses of a response. -/
inductive Status where
  | ok
  | temporaryRedirect
  | badRequest
  | forbidden
  | notFound
  | methodNotAllowed
  | unsupportedMediaType
  | unprocessable
  | serverError
deriving DecidableEq, Repr

/-- The number of a status. -/
def Status.code : Status → Nat
  | .ok => 200
  | .temporaryRedirect => 307
  | .badRequest => 400
  | .forbidden => 403
  | .notFound => 404
  | .methodNotAllowed => 405
  | .unsupportedMediaType => 415
  | .unprocessable => 422
  | .serverError => 500

/-- The status of an error. -/
def Error.status : Error → Status
  | .notFound _ => .notFound
  | .limitReached _ => .forbidden
  | .unknownType _ | .lastItem _ | .malformedState _ | .invalidPath _ | .uploadFailed _
  | .unreadableJson => .badRequest
  | .saveFailed _ | .transport _ | .fileSystem => .serverError

/-- Why a request is refused. -/
inductive Refusal where
  | failed (e : Error)
  | tooManyProjects
  | tooManyComponents (plan : Plan)
  /-- A page can be exported as HTML only. -/
  | unknownFormat
  /-- The form of an upload cannot be read. -/
  | unreadableForm
  /-- The file of an upload breaks off. -/
  | unreadableFile
  | noFile
  | noFileName
  | fileTypeNotAllowed
deriving DecidableEq, Repr

namespace Refusal

/-- The status of a refusal. -/
def status : Refusal → Status
  | .failed e => e.status
  | .tooManyProjects | .tooManyComponents _ => .forbidden
  | .unknownFormat | .unreadableForm | .unreadableFile | .noFile | .noFileName
  | .fileTypeNotAllowed => .badRequest

/-- What is said of a form that cannot be read. -/
def formFault : String := "Error parsing `multipart/form-data` request"

/-- The wording of a refusal. -/
def message : Refusal → String
  | .failed e => e.message
  | .tooManyProjects => "Project limit reached. Upgrade to Pro for unlimited projects."
  | .tooManyComponents plan =>
      "Component limit exceeded. " ++ plan.title ++ " tier allows " ++
        toString plan.componentLimit ++ " components."
  | .unknownFormat => "Invalid format"
  | .unreadableForm => "Multipart error: " ++ formFault
  | .unreadableFile => "Failed to read file: " ++ formFault
  | .noFile => "No file provided"
  | .noFileName => "No file selected"
  | .fileTypeNotAllowed =>
      "Invalid file type. Allowed: " ++ ", ".intercalate (ImageFile.mediaTypes.map (·.1))

end Refusal

end PageBuilder
