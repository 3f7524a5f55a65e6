import PageBuilder.Json.Draft

/-!
# Shapes

A shape reads a draft as a value of some type, or says what is wrong with it.  Faults are found in
the order of the text.  A record may be written as an object, whose unknown keys are skipped and
whose known keys stand at most once, or as the list of its members in order.
-/

namespace PageBuilder.Json

/-- Reads a draft that may be nested at most as deep as the number says. -/
abbrev Shape (α : Type) := Nat → Draft → Except Fault α

namespace Shape

/-! ## Single values -/

/-- The fault of a draft that is not of the kind asked for. -/
def fault : Draft → Fault
  | .broken | .unholdable => .malformed
  | _ => .mismatch

/-- Any value. -/
def any : Shape Json := Draft.value

/-- A string. -/
def text : Shape String
  | _, .text s => .ok s
  | _, d => .error (fault d)

/-- A truth value. -/
def bool : Shape Bool
  | _, .bool b => .ok b
  | _, d => .error (fault d)

/-- A natural number of at most 64 bits, written without point and exponent. -/
def word : Shape Nat
  | _, .number (.int n) =>
      if 0 ≤ n ∧ n ≤ maxWord then .ok n.toNat else .error .mismatch
  | _, d => .error (fault d)

/-- An object with any content. -/
def object : Shape Object
  | depth, .object entries closed => do
      return (← Draft.value depth (.object entries closed)).entries
  | _, d => .error (fault d)

/-- A value or `null`. -/
def nullable {α : Type} (shape : Shape α) : Shape (Option α)
  | _, .null => .ok none
  | depth, d => do return some (← shape depth d)

/-- A list whose items all have one shape. -/
def list {α : Type} (shape : Shape α) : Shape (List α)
  | 0, .list _ _ => .error .malformed
  | depth + 1, .list items closed => do
      let values ← items.mapM (shape depth)
      if closed then .ok values else .error .malformed
  | _, d => .error (fault d)

/-! ## Records -/

/-- A member of a record: its name, what its value is checked for, and whether it may be left
out. -/
structure Member where
  name : String
  required : Bool
  check : Shape Unit

/-- A member that must be there. -/
def required {α : Type} (name : String) (shape : Shape α) : Member :=
  ⟨name, true, fun depth d => do let _ ← shape depth d⟩

/-- A member that may be left out. -/
def optional {α : Type} (name : String) (shape : Shape α) : Member :=
  ⟨name, false, fun depth d => do let _ ← shape depth d⟩

/-- The members found in a record, and how deep their values may be nested. -/
structure Found where
  depth : Nat
  values : List (String × Draft)

/-- The value of a member, if it is there. -/
def Found.get? {α : Type} (found : Found) (name : String) (shape : Shape α) :
    Except Fault (Option α) :=
  match found.values.lookup name with
  | some d => do return some (← shape found.depth d)
  | none => .ok none

/-- The value of a member that must be there. -/
def Found.get {α : Type} (found : Found) (name : String) (shape : Shape α) : Except Fault α := do
  match ← found.get? name shape with
  | some a => .ok a
  | none => .error .mismatch

/-- The value of a member, or `default` if it was left out. -/
def Found.getD {α : Type} (found : Found) (name : String) (shape : Shape α) (default : α) :
    Except Fault α := do
  return (← found.get? name shape).getD default

/-- Reads the entries of an object.  The members found before are in `found`, last first. -/
def readEntries (members : List Member) (depth : Nat) (found : List (String × Draft)) :
    List (Option String × Draft) → Except Fault (List (String × Draft))
  | [] => .ok found.reverse
  | (none, _) :: _ => .error .malformed
  | (some key, d) :: rest =>
      match members.find? (·.name == key) with
      | none => if d.unbroken then readEntries members depth found rest else .error .malformed
      | some member =>
          if (found.lookup key).isSome then .error .mismatch
          else do
            member.check depth d
            readEntries members depth ((key, d) :: found) rest

/-- Reads the items of a list as the members in order.  The members left out at the end must be
optional. -/
def readItems (depth : Nat) (closed : Bool) :
    List Member → List Draft → Except Fault (List (String × Draft))
  | [], [] => if closed then .ok [] else .error .malformed
  | [], _ :: _ => .error .malformed
  | members, [] =>
      if !closed then .error .malformed
      else if members.any (·.required) then .error .mismatch
      else .ok []
  | member :: members, d :: rest => do
      member.check depth d
      let found ← readItems depth closed members rest
      .ok ((member.name, d) :: found)

/-- The members of a record that is written as an object or as a list. -/
def record (members : List Member) : Shape Found
  | 0, .object _ _ => .error .malformed
  | depth + 1, .object entries closed => do
      let found ← readEntries members depth [] entries
      if !closed then .error .malformed
      else if members.any fun m => m.required && (found.lookup m.name).isNone then
        .error .mismatch
      else .ok ⟨depth, found⟩
  | 0, .list _ _ => .error .malformed
  | depth + 1, .list items closed => do return ⟨depth, ← readItems depth closed members items⟩
  | _, d => .error (fault d)

/-! ## Tagged records

A tagged record has one member, the tag, that says which other members it has.  The tag may stand
anywhere among them, so they are looked at only after the whole record was read. -/

/-- Takes the tag out of the entries of an object.  The entries before are in `others`, last
first. -/
def takeTag {α : Type} (key : String) (shapes : String → Option α) (depth : Nat)
    (tag : Option α) (others : List (Option String × Draft)) :
    List (Option String × Draft) → Except Fault (Option α × List (Option String × Draft))
  | [] => .ok (tag, others.reverse)
  | (none, _) :: _ => .error .malformed
  | (some k, d) :: rest =>
      if k = key then
        if tag.isSome then .error .mismatch
        else do
          match shapes (← text depth d) with
          | some a => takeTag key shapes depth (some a) others rest
          | none => .error .mismatch
      else do
        let _ ← d.value depth
        takeTag key shapes depth tag ((some k, d) :: others) rest

/-- A record whose other members depend on its member `key`, or a list that starts with the
tag. -/
def tagged {α : Type} (key : String) (shapes : String → Option (Shape α)) : Shape α
  | 0, .object _ _ => .error .malformed
  | depth + 1, .object entries closed => do
      let (shape, rest) ← takeTag key shapes depth none [] entries
      if !closed then .error .malformed
      else
        match shape with
        | some shape => settled (shape (depth + 1) (.object rest true))
        | none => .error .mismatch
  | 0, .list _ _ => .error .malformed
  | depth + 1, .list items closed =>
      match items with
      | [] => .error (if closed then .mismatch else .malformed)
      | first :: rest => do
          match shapes (← text depth first) with
          | none => .error .mismatch
          | some shape =>
              let _ ← rest.mapM (Draft.value depth)
              if closed then settled (shape (depth + 1) (.list rest true)) else .error .malformed
  | _, d => .error (fault d)
where
  /-- The text is sound by now, so whatever is wrong is the shape. -/
  settled : Except Fault α → Except Fault α := Except.mapError fun _ => .mismatch

/-! ## Reading texts and values -/

/-- Reads a whole text. -/
def read {α : Type} (shape : Shape α) (s : String) : Except Fault α := do
  let (draft, complete) := Draft.ofText s
  let value ← shape maxDepth draft
  if complete then .ok value else .error .malformed

end Shape

mutual

/-- The draft of a value. -/
def Draft.ofJson : Json → Draft
  | .null => .null
  | .bool b => .bool b
  | .num n => .number n
  | .str s => .text s
  | .arr items => .list (Draft.ofItems items) true
  | .obj entries => .object (Draft.ofEntries entries) true

/-- The drafts of some values. -/
def Draft.ofItems : List Json → List Draft
  | [] => []
  | v :: rest => Draft.ofJson v :: Draft.ofItems rest

/-- The drafts of some entries. -/
def Draft.ofEntries : List (String × Json) → List (Option String × Draft)
  | [] => []
  | (key, v) :: rest => (some key, Draft.ofJson v) :: Draft.ofEntries rest

/-- How deep the lists and objects of a draft are nested. -/
def Draft.nesting : Draft → Nat
  | .list items _ => Draft.nestingOfItems items + 1
  | .object entries _ => Draft.nestingOfEntries entries + 1
  | _ => 0

/-- The deepest nesting among some drafts. -/
def Draft.nestingOfItems : List Draft → Nat
  | [] => 0
  | d :: rest => max d.nesting (Draft.nestingOfItems rest)

/-- The deepest nesting among some entries. -/
def Draft.nestingOfEntries : List (Option String × Draft) → Nat
  | [] => 0
  | (_, d) :: rest => max d.nesting (Draft.nestingOfEntries rest)

end

/-- Reads a value that is at hand already, however deep it is nested. -/
def Shape.ofJson {α : Type} (shape : Shape α) (v : Json) : Except Fault α :=
  let draft := Draft.ofJson v
  shape (draft.nesting + 1) draft

end PageBuilder.Json
