import PageBuilder.Json.Numeral

/-!
# Tokens of a JSON text

A JSON text is cut into tokens: brackets, marks, words, numbers and strings.  The text stops being
JSON at the first place where no token starts, and `Token.bad` stands for that place; nothing
follows it.
-/

namespace PageBuilder.Json

/-- A token of a JSON text. -/
inductive Token where
  | openList
  | closeList
  | openObject
  | closeObject
  | comma
  | colon
  | null
  | bool (b : Bool)
  /-- A number; `none` if it is beyond the largest double. -/
  | number (n : Option Number)
  /-- A string; `none` if it holds half of a surrogate pair. -/
  | text (s : Option String)
  | bad

/-! ## Strings -/

/-- One written character of a string: a character, or a 16-bit unit written in hexadecimal. -/
inductive Piece where
  | char (c : Char)
  | unit (n : Nat)
deriving DecidableEq

/-- The value of a hexadecimal digit. -/
def hexValue? (c : Char) : Option Nat :=
  if c.isDigit then some (c.toNat - '0'.toNat)
  else if 'a' ≤ c && c ≤ 'f' then some (c.toNat - 'a'.toNat + 10)
  else if 'A' ≤ c && c ≤ 'F' then some (c.toNat - 'A'.toNat + 10)
  else none

/-- The 16-bit unit written by four hexadecimal digits. -/
def unit? (a b c d : Char) : Option Nat := do
  some ((((← hexValue? a) * 16 + (← hexValue? b)) * 16 + (← hexValue? c)) * 16 + (← hexValue? d))

/-- The character a one-letter escape stands for. -/
def escaped? : Char → Option Char
  | '"' => some '"'
  | '\\' => some '\\'
  | '/' => some '/'
  | 'b' => some '\x08'
  | 'f' => some '\x0c'
  | 'n' => some '\n'
  | 'r' => some '\r'
  | 't' => some '\t'
  | _ => none

/-- Reads a string after its opening quote, up to and with the closing one.  The pieces read
before are in `done`, last first. -/
def scanPieces (done : List Piece) : List Char → Option (List Piece × List Char)
  | [] => none
  | '"' :: rest => some (done.reverse, rest)
  | '\\' :: 'u' :: a :: b :: c :: d :: rest =>
      match unit? a b c d with
      | some n => scanPieces (.unit n :: done) rest
      | none => none
  | '\\' :: e :: rest =>
      match escaped? e with
      | some c => scanPieces (.char c :: done) rest
      | none => none
  | c :: rest => if c.toNat < 0x20 then none else scanPieces (.char c :: done) rest

/-- Whether a 16-bit unit is the first half of a surrogate pair. -/
def isLeading (n : Nat) : Bool := 0xD800 ≤ n && n < 0xDC00

/-- Whether a 16-bit unit is the second half of a surrogate pair. -/
def isTrailing (n : Nat) : Bool := 0xDC00 ≤ n && n < 0xE000

/-- The characters that the pieces spell, or `none` if half of a surrogate pair stands alone.
The characters spelt before are in `done`, last first. -/
def spell (done : List Char) : List Piece → Option (List Char)
  | [] => some done.reverse
  | .char c :: rest => spell (c :: done) rest
  | .unit n :: .unit m :: rest =>
      if isLeading n then
        if isTrailing m then
          spell (Char.ofNat (0x10000 + (n - 0xD800) * 0x400 + (m - 0xDC00)) :: done) rest
        else none
      else if isTrailing n then none
      else spell (Char.ofNat n :: done) (.unit m :: rest)
  | .unit n :: rest =>
      if isLeading n || isTrailing n then none else spell (Char.ofNat n :: done) rest

/-! ## Tokens -/

/-- The blanks of a JSON text. -/
def isSpace (c : Char) : Bool := c = ' ' || c = '\n' || c = '\t' || c = '\r'

/-- The token that starts a text without leading blanks, and what follows it. -/
def scanToken : List Char → Token × List Char
  | '[' :: rest => (.openList, rest)
  | ']' :: rest => (.closeList, rest)
  | '{' :: rest => (.openObject, rest)
  | '}' :: rest => (.closeObject, rest)
  | ',' :: rest => (.comma, rest)
  | ':' :: rest => (.colon, rest)
  | 'n' :: 'u' :: 'l' :: 'l' :: rest => (.null, rest)
  | 't' :: 'r' :: 'u' :: 'e' :: rest => (.bool true, rest)
  | 'f' :: 'a' :: 'l' :: 's' :: 'e' :: rest => (.bool false, rest)
  | '"' :: rest =>
      match scanPieces [] rest with
      | some (pieces, tail) => (.text ((spell [] pieces).map String.ofList), tail)
      | none => (.bad, [])
  | cs =>
      match scanNumeral cs with
      | some (n, rest) => (.number n.value?, rest)
      | none => (.bad, [])

/-- The tokens of a text, at most `fuel` of them, after those in `done`, which stand last
first. -/
def scanTokens : Nat → List Token → List Char → List Token
  | 0, done, _ => (.bad :: done).reverse
  | fuel + 1, done, cs =>
      match cs.dropWhile isSpace with
      | [] => done.reverse
      | c :: rest =>
          match scanToken (c :: rest) with
          | (.bad, _) => (.bad :: done).reverse
          | (token, tail) => scanTokens fuel (token :: done) tail

/-- The tokens of a text.  Each takes at least one character. -/
def tokens (s : String) : List Token :=
  let cs := s.toList
  scanTokens (cs.length + 1) [] cs

end PageBuilder.Json
