import PageBuilder.Json.Basic
import PageBuilder.Decimal.Shortest

/-!
# JSON texts

How values are written: compactly, without any blank, and indented by two spaces.  Strings keep
all characters but the quote, the backslash and the control characters.  A double keeps a point
or an exponent, so that it reads back as a double.
-/

namespace PageBuilder.Json

/-! ## Numbers -/

/-- A finite double: positional from `1e-5` up to `1e16`, with `.0` after a whole number, and
scientific elsewhere. -/
def doubleText (x : Float) : String :=
  let d := Decimal.shortest .even x.toBits
  let text :=
    if d.digits = 0 || (-5 ≤ d.leading && d.leading < 16) then d.positional ".0" else d.scientific
  Decimal.signText x ++ text

/-- An integer in decimal digits. -/
def integerText (n : Int) : String :=
  (if n < 0 then "-" else "") ++ Decimal.digitText n.natAbs

/-- A number.  What is no finite double is written as `null`. -/
def numeralText : Number → String
  | .int n => integerText n
  | .float x => if x.isFinite then doubleText x else "null"

/-! ## Strings -/

/-- A hexadecimal digit. -/
def hexDigit (n : Nat) : Char := (Nat.digitChar n)

/-- How a string holds a character. -/
def charText (c : Char) : List Char :=
  if c = '"' then ['\\', '"']
  else if c = '\\' then ['\\', '\\']
  else if c = '\x08' then ['\\', 'b']
  else if c = '\x0c' then ['\\', 'f']
  else if c = '\n' then ['\\', 'n']
  else if c = '\r' then ['\\', 'r']
  else if c = '\t' then ['\\', 't']
  else if c.toNat < 0x20 then
    ['\\', 'u', '0', '0', hexDigit (c.toNat / 16), hexDigit (c.toNat % 16)]
  else [c]

/-- A string literal. -/
def stringText (s : String) : String :=
  "\"" ++ String.ofList (s.toList.flatMap charText) ++ "\""

/-! ## Compact text -/

mutual

/-- A value without any blank. -/
def compact : Json → String
  | .null => "null"
  | .bool b => if b then "true" else "false"
  | .num n => numeralText n
  | .str s => stringText s
  | .arr items => "[" ++ compactItems items ++ "]"
  | .obj entries => "\x7b" ++ compactEntries entries ++ "\x7d"

/-- Items with commas between them. -/
def compactItems : List Json → String
  | [] => ""
  | [v] => compact v
  | v :: rest => compact v ++ "," ++ compactItems rest

/-- Entries with commas between them. -/
def compactEntries : List (String × Json) → String
  | [] => ""
  | [(key, v)] => stringText key ++ ":" ++ compact v
  | (key, v) :: rest => stringText key ++ ":" ++ compact v ++ "," ++ compactEntries rest

end

/-! ## Indented text -/

/-- A line break and the blanks of a nesting level. -/
def lineBreak (level : Nat) : String := "\n" ++ String.ofList (List.replicate (2 * level) ' ')

mutual

/-- A value with every item and entry on a line of its own. -/
def indented (level : Nat) : Json → String
  | .null => "null"
  | .bool b => if b then "true" else "false"
  | .num n => numeralText n
  | .str s => stringText s
  | .arr [] => "[]"
  | .arr items => "[" ++ indentedItems (level + 1) items ++ lineBreak level ++ "]"
  | .obj [] => "\x7b\x7d"
  | .obj entries => "\x7b" ++ indentedEntries (level + 1) entries ++ lineBreak level ++ "\x7d"

/-- Items on lines of their own, with commas between them. -/
def indentedItems (level : Nat) : List Json → String
  | [] => ""
  | [v] => lineBreak level ++ indented level v
  | v :: rest => lineBreak level ++ indented level v ++ "," ++ indentedItems level rest

/-- Entries on lines of their own, with commas between them. -/
def indentedEntries (level : Nat) : List (String × Json) → String
  | [] => ""
  | [(key, v)] => lineBreak level ++ stringText key ++ ": " ++ indented level v
  | (key, v) :: rest =>
      lineBreak level ++ stringText key ++ ": " ++ indented level v ++ "," ++
        indentedEntries level rest

end

end PageBuilder.Json
