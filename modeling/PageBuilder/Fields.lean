import PageBuilder.Json.Basic
import PageBuilder.Decimal.Shortest
import PageBuilder.Decimal.Reading
import PageBuilder.Text.Blank

/-!
# Forgiving fields

Component data is whatever was stored, so it is read without ever failing: a field that is missing
or of the wrong kind reads as an empty text, an empty list, no number or a false flag.  This is
what keeps every component renderable.
-/

namespace PageBuilder

/-! ## Values as text and numbers -/

/-- A number as users see it: whole numbers without a point, others with the fewest digits that
read back, and `0` for what is not finite. -/
def numberText (x : Float) : String :=
  if !x.isFinite || x == 0 then "0" else Decimal.plain x

mutual

/-- A value as users see it.  Lists show their items with commas between them; `null` and objects
show nothing. -/
def Json.text : Json → String
  | .null => ""
  | .bool b => if b then "true" else "false"
  | .num n => numberText n.toFloat
  | .str s => s
  | .arr items => ",".intercalate (Json.texts items)
  | .obj _ => ""

/-- Some values as users see them. -/
def Json.texts : List Json → List String
  | [] => []
  | v :: rest => Json.text v :: Json.texts rest

end

/-- The finite number a text writes, blanks around it aside. -/
def finiteNumber? (s : String) : Option Float :=
  (Decimal.float? (Text.trim s)).filter Float.isFinite

/-- A value as a finite number; texts that write one count. -/
def Json.number? : Json → Option Float
  | .num n => some n.toFloat |>.filter Float.isFinite
  | .str s => finiteNumber? s
  | _ => none

/-- Whether a value counts as true: a text that is not empty, a number other than zero, any list or
object. -/
def Json.flag : Json → Bool
  | .null => false
  | .bool b => b
  | .num n => n.toFloat != 0
  | .str s => !s.isEmpty
  | .arr _ => true
  | .obj _ => true

/-- The integer at the start of a text such as `400px`, if it fits in 64 signed bits. -/
def leadingInteger? (s : String) : Option Int :=
  let cs := Text.trimChars s.toList
  let (sign, rest) :=
    match cs with
    | '-' :: r => (['-'], r)
    | '+' :: r => (['+'], r)
    | r => ([], r)
  (Decimal.integer? (sign ++ rest.takeWhile Char.isDigit)).filter fun n =>
    signedRange.1 ≤ n ∧ n ≤ signedRange.2

/-! ## Fields of an object -/

namespace Object

/-- A field as users see it. -/
def text (o : Object) (key : String) : String := ((o.get? key).map Json.text).getD ""

/-- A field as users see it, or `fallback` if it shows nothing. -/
def textOr (o : Object) (key fallback : String) : String :=
  let s := o.text key
  if s.isEmpty then fallback else s

/-- Whether a field is there and counts as true. -/
def flag (o : Object) (key : String) : Bool := ((o.get? key).map Json.flag).getD false

/-- A field as a finite number. -/
def number? (o : Object) (key : String) : Option Float := (o.get? key).bind Json.number?

/-- The items of a field that is a list. -/
def list (o : Object) (key : String) : List Json := ((o.get? key).map Json.items).getD []

/-- The items of a list field as users see them. -/
def strings (o : Object) (key : String) : List String := (o.list key).map Json.text

/-- The fields of each item of a list field; items that are not objects have none. -/
def records (o : Object) (key : String) : List Object := (o.list key).map Json.entries

end Object

end PageBuilder
