/-!
# Media types

The media type of a message body: a type, a subtype and parameters.  Types, subtypes and parameter
names are compared without regard to case.  After a semicolon spaces may stand; anywhere else a
space is an error, except after a quoted value.
-/

namespace PageBuilder

/-- A media type. -/
structure MediaType where
  type : String
  /-- The subtype up to its last plus sign. -/
  subtype : String
  /-- What follows the last plus sign of the subtype. -/
  suffix : Option String
  parameters : List (String × String)
deriving DecidableEq, Repr

namespace MediaType

/-! ## Reading -/

/-- Whether a character may stand in a type, subtype, parameter name or bare value. -/
def isTokenChar (c : Char) : Bool := c.isAlphanum || "!#$%&'*+-.^_`|~".toList.contains c

/-- Whether a character may stand between quotes, the last quote included. -/
def isQuotedChar (c : Char) : Bool := 0x20 ≤ c.toNat && c.toNat < 0x7F

/-- The text in lower case. -/
def lower (cs : List Char) : String := String.ofList (cs.map Char.toLower)

/-- Reads the rest of a value after the opening quote: at least one character, up to the next
quote. -/
def quoted? : List Char → Option (List Char × List Char)
  | [] => none
  | c :: rest =>
      let value := c :: rest.takeWhile (· != '"')
      match rest.dropWhile (· != '"') with
      | [] => none
      | _ :: tail => if value.all isQuotedChar then some (value, tail) else none

/-- Reads parameters, at most `fuel` of them. -/
def parameters? : Nat → List Char → Option (List (String × String))
  | _, [] => some []
  | 0, _ => none
  | fuel + 1, cs => do
      let cs := cs.dropWhile (· == ' ')
      if cs.isEmpty then return []
      let name := cs.takeWhile isTokenChar
      guard !name.isEmpty
      match cs.dropWhile isTokenChar with
      | '=' :: '"' :: rest => do
          let (value, tail) ← quoted? rest
          let tail := tail.dropWhile (· == ' ')
          let tail ←
            match tail with
            | [] => some []
            | ';' :: tail => some tail
            | _ => none
          return (lower name, String.ofList value) :: (← parameters? fuel tail)
      | '=' :: rest => do
          let value := rest.takeWhile isTokenChar
          let tail ←
            match rest.dropWhile isTokenChar with
            | [] => some []
            | ';' :: tail => if value.isEmpty then none else some tail
            | _ => none
          return (lower name, String.ofList value) :: (← parameters? fuel tail)
      | _ => none

/-- Splits a subtype at its last plus sign.  A plus sign at its start does not count. -/
def splitSuffix (cs : List Char) : List Char × Option (List Char) :=
  let after := cs.reverse.takeWhile (· != '+')
  let before := (cs.reverse.drop (after.length + 1)).reverse
  if before.isEmpty then (cs, none) else (before, some after.reverse)

/-- Reads a media type. -/
def parse? (s : String) : Option MediaType := do
  let cs := s.toList
  let type := cs.takeWhile isTokenChar
  guard !type.isEmpty
  match cs.dropWhile isTokenChar with
  | '/' :: rest => do
      let name := rest.takeWhile (· != ';')
      guard (name.all isTokenChar)
      let tail := rest.dropWhile (· != ';')
      guard (tail.isEmpty || !name.isEmpty)
      let parameters ← parameters? tail.length (tail.drop 1)
      let (subtype, suffix) := splitSuffix name
      return ⟨lower type, lower subtype, suffix.map lower, parameters⟩
  | _ => none

/-! ## Kinds of bodies -/

/-- Whether a body of this type is JSON. -/
def isJson (m : MediaType) : Bool :=
  m.type == "application" && (m.subtype == "json" || m.suffix == some "json")

/-- The mark between the parts of a body that is form data. -/
def formBoundary? (m : MediaType) : Option String :=
  if m.type = "multipart" ∧ m.subtype = "form-data" then m.parameters.lookup "boundary" else none

example : ((parse? "Application/VND.x+JSON; charset=utf-8").map isJson) = some true := by
  decide +kernel

example : (parse? "application/json ; a=b").isNone = true := by decide +kernel

end MediaType

end PageBuilder
