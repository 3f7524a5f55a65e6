import PageBuilder.Project.Basic
import PageBuilder.Site.Timestamp

/-!
# Stored projects

A project as a site keeps it: its record with the moments when it was created and last saved, and
the text of the file that holds it.
-/

namespace PageBuilder

/-- A project of a site. -/
structure StoredProject where
  record : Project.Record
  created : String
  updated : String
deriving DecidableEq, Repr

namespace StoredProject

/-- How a stored project is written. -/
def toJson (p : StoredProject) : Json :=
  .obj (p.record.members ++ [("created_at", .str p.created), ("updated_at", .str p.updated)])

/-- The text of the file of a project. -/
def fileText (p : StoredProject) : String := p.toJson.indented 0

open Json Shape

/-- A text that names a moment. -/
def moment : Shape String := fun depth d => do
  let s ← text depth d
  if Timestamp.isMoment s then .ok s else .error .mismatch

/-- How a stored project is read.  It is always an object, and every value in it must be sound. -/
def shape : Shape StoredProject
  | depth, .object entries closed => do
      let _ ← any depth (.object entries closed)
      let found ←
        Json.Shape.record
          (Project.Record.memberShapes ++
            [required "created_at" moment, required "updated_at" moment])
          depth (.object entries closed)
      return {
        record := ← Project.Record.ofFound found
        created := ← found.get "created_at" moment
        updated := ← found.get "updated_at" moment }
  | _, d => .error (fault d)

/-- The project that the text of a file holds. -/
def ofFileText? (s : String) : Option StoredProject := (shape.read s).toOption

end StoredProject

end PageBuilder
