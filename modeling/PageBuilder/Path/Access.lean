import PageBuilder.Path.Basic
import PageBuilder.Json.Basic

/-!
# Reading and writing along a path

`FieldPath.get?` reads the value a path names, `FieldPath.focus?` finds it together with a way to
put another in its place, and `FieldPath.set` writes a value.  Writing makes the objects that are
missing on the way, also in place of a `null`, but never a list: every index must be there.
-/

namespace PageBuilder

/-! ## Steps from a value -/

/-- The value some steps away. -/
def Json.follow? : List Segment → Json → Option Json
  | [], v => some v
  | .key name :: rest, .obj entries => do follow? rest (← Object.get? name entries)
  | .index n :: rest, .arr items => do follow? rest (← items[n]?)
  | _ :: _, _ => none

/-- The value some steps away, and what the whole becomes when another is put in its place. -/
def Json.focus? : List Segment → Json → Option (Json × (Json → Json))
  | [], v => some (v, id)
  | .key name :: rest, .obj entries => do
      let (inner, put) ← focus? rest (← Object.get? name entries)
      some (inner, fun w => .obj (Object.insert name (put w) entries))
  | .index n :: rest, .arr items => do
      let (inner, put) ← focus? rest (← items[n]?)
      some (inner, fun w => .arr (items.set n (put w)))
  | _ :: _, _ => none

/-- Writes a value some steps away.  `path` is the text that faults name. -/
def Json.write (path : String) (value : Json) : List Segment → Json → Except PathFault Json
  | [], _ => .ok value
  | .key name :: rest, target =>
      match target with
      | .obj entries => do
          let inner ← write path value rest ((Object.get? name entries).getD .null)
          .ok (.obj (Object.insert name inner entries))
      | .null => do
          let inner ← write path value rest .null
          .ok (.obj [(name, inner)])
      | _ => .error (.notInObject path name)
  | .index n :: rest, target =>
      match target with
      | .arr items =>
          match items[n]? with
          | some item => do
              let inner ← write path value rest item
              .ok (.arr (items.set n inner))
          | none => .error (.outOfRange path n items.length)
      | _ => .error (.notInList path n)

/-! ## Paths into component data -/

namespace FieldPath

/-- The value a path names. -/
def get? (p : FieldPath) (data : Object) : Option Json := Json.follow? p.segments (.obj data)

/-- The value a path names, and what the data becomes when another is put in its place. -/
def focus? (p : FieldPath) (data : Object) : Option (Json × (Json → Object)) :=
  (Json.focus? p.segments (.obj data)).map fun (v, put) => (v, fun w => (put w).entries)

/-- Writes a value at a path. -/
def set (p : FieldPath) (value : Json) (data : Object) : Except Error Object :=
  match Json.write p.text value p.segments (.obj data) with
  | .ok v => .ok v.entries
  | .error fault => .error (.invalidPath fault)

end FieldPath

end PageBuilder
