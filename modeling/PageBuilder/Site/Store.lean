import PageBuilder.Site.Plan
import PageBuilder.Site.StoredProject

/-!
# The store of a site

A site keeps its projects by id.  It may have a disk, a collection of named texts, on which each
project has a file of its own; every change is then made on the disk too.  The disk may fail to
write or remove a file, and leaves the file as it was then.

Creating and saving write the file first and change the projects only if that worked.
-/

namespace PageBuilder

/-! ## Disks -/

/-- A disk: named texts. -/
abbrev Disk := List (String × String)

namespace Disk

/-- Writes a file, in place of the one with that name. -/
def write (name text : String) : Disk → Disk
  | [] => [(name, text)]
  | (n, t) :: rest => if n = name then (name, text) :: rest else (n, t) :: write name text rest

/-- Removes a file. -/
def remove (name : String) (disk : Disk) : Disk := disk.filter (·.1 != name)

/-- The text of a file. -/
def read? (disk : Disk) (name : String) : Option String := disk.lookup name

end Disk

/-! ## Stores -/

/-- The projects of a site. -/
structure Store where
  plan : Plan
  /-- The projects by id, in increasing order of the ids. -/
  projects : List (Nat × StoredProject)
  /-- The disk, if there is one. -/
  disk : Option Disk

/-- What the surroundings of a request give to it. -/
structure Occasion where
  /-- The moment of the request. -/
  now : String
  /-- A name that no uploaded file has yet. -/
  freshName : String
  /-- Whether the disk does what it is asked to. -/
  diskWorks : Bool

namespace Store

/-- The store without projects. -/
def empty (plan : Plan) (disk : Option Disk) : Store := ⟨plan, [], disk⟩

/-- Puts a project at an id, in place of the one that was there. -/
def insertAt (id : Nat) (p : StoredProject) :
    List (Nat × StoredProject) → List (Nat × StoredProject)
  | [] => [(id, p)]
  | (n, q) :: rest =>
      if n = id then (id, p) :: rest
      else if id < n then (id, p) :: (n, q) :: rest
      else (n, q) :: insertAt id p rest

/-- The project with an id. -/
def get? (s : Store) (id : Nat) : Option StoredProject := s.projects.lookup id

/-- The records of all projects, in the order of their ids. -/
def records (s : Store) : List Project.Record := s.projects.map (·.2.record)

/-! ## Files -/

/-- The name of the file of a project. -/
def fileName (id : Nat) : String := toString id ++ ".json"

/-- Whether a name has the extension `json`, which needs something before its point. -/
def isProjectFile (name : String) : Bool :=
  ".json".toList.isSuffixOf name.toList && ".json".length < name.length

/-- Reads the projects on a disk.  A file that holds no project is skipped; of two files with one
id the later one counts. -/
def load (plan : Plan) (disk : Disk) : Store :=
  { plan
    projects :=
      disk.foldl
        (fun projects (name, text) =>
          if isProjectFile name then
            match StoredProject.ofFileText? text with
            | some p => insertAt p.record.id p projects
            | none => projects
          else projects)
        []
    disk := some disk }

/-- Writes the file of a project, if there is a disk. -/
def writeFile (s : Store) (o : Occasion) (p : StoredProject) : Except Error Store :=
  match s.disk with
  | none => .ok s
  | some disk =>
      if o.diskWorks then
        .ok { s with disk := some (disk.write (fileName p.record.id) p.fileText) }
      else .error .fileSystem

/-- Removes the file of a project, if there is one. -/
def removeFile (s : Store) (o : Occasion) (id : Nat) : Except Error Store :=
  match s.disk with
  | none => .ok s
  | some disk =>
      if (disk.read? (fileName id)).isNone then .ok s
      else if o.diskWorks then .ok { s with disk := some (disk.remove (fileName id)) }
      else .error .fileSystem

/-! ## Requests -/

/-- The id of the next project: one more than the greatest in use, in 64 bits. -/
def nextId (s : Store) : Nat :=
  match s.projects.getLast? with
  | some (id, _) => (id + 1) % (maxWord + 1)
  | none => 1

/-- Creates a project. -/
def create (s : Store) (o : Occasion) (name : String) : Except Error StoredProject × Store :=
  if s.plan.projectLimit ≤ s.projects.length then
    (.error (.limitReached s.plan.projectLimit), s)
  else
    let p : StoredProject := ⟨.new s.nextId name, o.now, o.now⟩
    match s.writeFile o p with
    | .ok written => (.ok p, { written with projects := insertAt s.nextId p s.projects })
    | .error e => (.error e, s)

/-- Saves a project. -/
def save (s : Store) (o : Occasion) (id : Nat) (u : Project.Update) :
    Except Error StoredProject × Store :=
  match s.get? id with
  | none => (.error (.notFound id), s)
  | some old =>
      let p : StoredProject := { old with record := old.record.apply u, updated := o.now }
      match s.writeFile o p with
      | .ok written => (.ok p, { written with projects := insertAt id p s.projects })
      | .error e => (.error e, s)

/-- Deletes a project.  It is forgotten before its file is removed. -/
def delete (s : Store) (o : Occasion) (id : Nat) : Except Error Unit × Store :=
  match s.get? id with
  | none => (.error (.notFound id), s)
  | some _ =>
      let s := { s with projects := s.projects.filter (·.1 != id) }
      match s.removeFile o id with
      | .ok removed => (.ok (), removed)
      | .error e => (.error e, s)

end Store

end PageBuilder
