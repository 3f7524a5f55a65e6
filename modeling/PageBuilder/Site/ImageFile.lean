/-!
# Image files

Which files may be uploaded, judged by the extension of their name, and the media type each is
served with.
-/

namespace PageBuilder.ImageFile

/-- The extensions that are accepted, with their media types. -/
def mediaTypes : List (String × String) :=
  [("png", "image/png"), ("jpg", "image/jpeg"), ("jpeg", "image/jpeg"), ("gif", "image/gif"),
    ("webp", "image/webp"), ("svg", "image/svg+xml")]

/-- The part of a name after its last point; none without a point. -/
def extension? (name : String) : Option String :=
  if name.toList.contains '.' then
    some (String.ofList (name.toList.reverse.takeWhile (· != '.')).reverse)
  else none

/-- The extension of a file that may be uploaded, in lower case.  Only ASCII letters have a lower
case here. -/
def allowedExtension? (name : String) : Option String := do
  let extension := String.ofList ((← extension? name).toList.map Char.toLower)
  if (mediaTypes.lookup extension).isSome then some extension else none

/-- The media type a file is served with. -/
def mediaType? (name : String) : Option String := do mediaTypes.lookup (← extension? name)

example : allowedExtension? "a.b.JPEG" = some "jpeg" := by decide +kernel

example : allowedExtension? "png" = none := by decide +kernel

end PageBuilder.ImageFile
