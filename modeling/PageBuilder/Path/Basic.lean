import PageBuilder.Error
import PageBuilder.Decimal.Reading
import PageBuilder.Text.Blank

/-!
# Field paths

A field path names a place in component data: `title`, `features[2].title`, `images[0]`.  It starts
with a field name; every further step is a name after a point or an index in brackets.  A point
may also stand between a name and a bracket, where it adds nothing.
-/

namespace PageBuilder

/-- One step of a field path. -/
inductive Segment where
  | key (name : String)
  | index (n : Nat)
deriving DecidableEq, Repr

/-- A field path: a field name and the steps from there. -/
structure FieldPath where
  head : String
  steps : List Segment
deriving DecidableEq, Repr

namespace FieldPath

/-- All steps of a path, the first name included. -/
def segments (p : FieldPath) : List Segment := .key p.head :: p.steps

/-! ## Text of a path -/

/-- The text of a step after the first. -/
def stepText : Segment → String
  | .key name => "." ++ name
  | .index n => "[" ++ toString n ++ "]"

/-- The text of a path. -/
def text (p : FieldPath) : String := p.head ++ String.join (p.steps.map stepText)

/-- The text of the path to an item of a list. -/
def item (list : String) (index : Nat) : String := list ++ "[" ++ toString index ++ "]"

/-- The text of the path to a field of a list item. -/
def itemField (list : String) (index : Nat) (key : String) : String :=
  item list index ++ "." ++ key

/-! ## Reading a path -/

/-- Whether a character may stand in a field name. -/
def isNameChar (c : Char) : Bool := c.isAlphanum || c = '_' || c = '-'

/-- Where in a path the next character stands.  What was read of a name or index so far is kept
last first. -/
inductive Position where
  | start
  | name (read : List Char)
  | bracket (read : List Char)
  | afterIndex
  | afterPoint

/-- The field name whose characters were read, last first. -/
def nameOf (read : List Char) : Segment := .key (String.ofList read.reverse)

/-- The index that the characters between two brackets write, read last first. -/
def indexOf? (read : List Char) : Option Nat := Decimal.word? (Text.trimChars read.reverse)

/-- Reads the rest of a path from a position.  The segments before it are in `done`, last
first. -/
def scan : Position → List Segment → List Char → Except PathReason (List Segment)
  | .name read, done, [] => .ok (nameOf read :: done).reverse
  | .bracket _, _, [] => .error .unclosedBracket
  | .afterIndex, done, [] => .ok done.reverse
  | .start, _, [] => .error .incomplete
  | .afterPoint, _, [] => .error .incomplete
  | .start, done, c :: cs =>
      if c = '[' then .error .leadingIndex
      else if c = '.' then .error .emptyName
      else if isNameChar c then scan (.name [c]) done cs
      else .error .badCharacter
  | .name read, done, c :: cs =>
      if c = '[' then scan (.bracket []) (nameOf read :: done) cs
      else if c = '.' then scan .afterPoint (nameOf read :: done) cs
      else if isNameChar c then scan (.name (c :: read)) done cs
      else .error .badCharacter
  | .bracket read, done, c :: cs =>
      if c = ']' then
        match indexOf? read with
        | some n => scan .afterIndex (.index n :: done) cs
        | none => .error .badIndex
      else scan (.bracket (c :: read)) done cs
  | .afterIndex, done, c :: cs =>
      if c = '[' then scan (.bracket []) done cs
      else if c = '.' then scan .afterPoint done cs
      else .error .missingSeparator
  | .afterPoint, done, c :: cs =>
      if c = '[' then scan (.bracket []) done cs
      else if c = '.' then .error .emptyName
      else if isNameChar c then scan (.name [c]) done cs
      else .error .badCharacter

/-- The path whose segments these are: the first one must be a name. -/
def ofSegments : List Segment → Except PathReason FieldPath
  | .key head :: steps => .ok ⟨head, steps⟩
  | _ => .error .incomplete

/-- The path a text writes. -/
def parse (s : String) : Except Error FieldPath :=
  match scan .start [] s.toList >>= ofSegments with
  | .ok p => .ok p
  | .error reason => .error (.invalidPath (.unreadable s reason))

end FieldPath

end PageBuilder
