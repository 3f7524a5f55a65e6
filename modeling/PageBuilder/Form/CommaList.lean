import PageBuilder.Fields

/-!
# Comma lists

Some lists are edited as one text with commas between the entries.  What is stored is always a
list.  Splitting trims the entries and drops those that are empty, so a text that was split once
and joined splits the same way again.
-/

namespace PageBuilder.CommaList

/-- The entries of a text: the pieces between commas, trimmed, without those that are empty. -/
def split (raw : String) : List String :=
  ((Text.splitAt ',' raw).map Text.trim).filter (!·.isEmpty)

/-- The text that shows a stored list. -/
def join (items : List Json) : String := ", ".intercalate (items.map Json.text)

/-! ## Numbers -/

/-- The number a text writes, or zero. -/
def numberOrZero (s : String) : Float := (finiteNumber? s).getD 0

/-- The entries of a text as numbers. -/
def numbers (raw : String) : List Float := (split raw).map numberOrZero

/-- The largest power of two up to which doubles hold every integer. -/
def exactIntegers : Float := 9007199254740992

/-- How a number is stored: as an integer if it is one, and not so large that it may have been
rounded. -/
def storedNumber (x : Float) : Json :=
  if x.floor == x && x.abs < exactIntegers then .int x.toInt64.toInt else .float x

/-! ## Stored lists -/

/-- The list that a text is stored as. -/
def stored (raw : String) (numeric : Bool) : Json :=
  .arr (if numeric then (numbers raw).map storedNumber else (split raw).map .str)

example : split " Home, About ,, Contact ," = ["Home", "About", "Contact"] := by decide +kernel

example : split " , ," = [] := by decide +kernel

end PageBuilder.CommaList
