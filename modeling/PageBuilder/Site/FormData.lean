import PageBuilder.Text.Blank

/-!
# Form data in parts

A body that is form data holds parts, each after a line with the boundary.  A part has headers, an
empty line and its content; its name and the name of the file it holds stand in one of the headers.
After the last part stands the boundary with two hyphens behind it.  A body that breaks off or
breaks these rules is read up to the place where it does.
-/

namespace PageBuilder

/-- A part of a form. -/
structure FormData.Part where
  name : Option String
  fileName : Option String
  /-- What the part holds; none if the body breaks off inside it. -/
  content : Option String
deriving DecidableEq, Repr

/-- A form, as far as it could be read. -/
structure FormData where
  parts : List FormData.Part
  /-- Whether the body was read to its end. -/
  complete : Bool
deriving DecidableEq, Repr

namespace FormData

/-! ## Lines and headers -/

/-- The end of a line. -/
def lineEnd : List Char := ['\r', '\n']

/-- Splits a text at the first place where `mark` stands, and leaves the mark out. -/
def cutAt? (mark : List Char) : List Char → Option (List Char × List Char)
  | [] => if mark.isEmpty then some ([], []) else none
  | c :: rest =>
      if mark.isPrefixOf (c :: rest) then some ([], (c :: rest).drop mark.length)
      else (cutAt? mark rest).map fun (before, after) => (c :: before, after)

/-- Whether a character is a space or a tab. -/
def isSpace (c : Char) : Bool := c == ' ' || c == '\t'

/-- Drops the spaces and tabs at the start. -/
def skipSpace (cs : List Char) : List Char := cs.dropWhile isSpace

/-- Whether a character may stand in the name of a header. -/
def isHeaderChar (c : Char) : Bool := c.isAlphanum || "!#$%&'*+-.^_`|~".toList.contains c

/-- Whether a character may stand in the value of a header. -/
def isValueChar (c : Char) : Bool := 0x20 ≤ c.toNat && c.toNat ≠ 0x7F || c = '\t'

/-- The name, in lower case, and the value of a header. -/
def header? (line : List Char) : Option (String × List Char) :=
  let name := line.takeWhile isHeaderChar
  match line.dropWhile isHeaderChar with
  | ':' :: value =>
      if name.isEmpty || !value.all isValueChar then none
      else
        let value := (skipSpace (skipSpace value).reverse).reverse
        some (String.ofList (name.map Char.toLower), value)
  | _ => none

/-- The most headers that a part may have. -/
def maxHeaders : Nat := 32

/-- A line without the carriage return at its end. -/
def dropReturn (line : List Char) : List Char :=
  if line.getLast? = some '\r' then line.dropLast else line

/-- The headers of a part.  Here a line feed is enough to end a line, and the first empty line ends
the headers. -/
def headers? (cs : List Char) : Option (List (String × List Char)) :=
  let lines := (Text.splitChars (· == '\n') cs).map dropReturn
  let lines := lines.takeWhile (!·.isEmpty)
  if maxHeaders < lines.length then none else lines.mapM header?

/-! ## Names -/

/-- The text up to the first quote that no backslash stands before, with backslashes before quotes
left out. -/
def quotedText? : List Char → Option (List Char)
  | [] => none
  | '"' :: _ => some []
  | '\\' :: '"' :: rest => (quotedText? rest).map ('"' :: ·)
  | c :: rest => (quotedText? rest).map (c :: ·)

/-- The value after the name of an attribute: what follows an equals sign, in quotes or up to the
next semicolon or space. -/
def attributeValue? (cs : List Char) : Option String :=
  match skipSpace cs with
  | '=' :: rest =>
      match skipSpace rest with
      | '"' :: rest => (quotedText? rest).map String.ofList
      | rest => some (String.ofList (rest.takeWhile fun c => c != ';' && c != ' '))
  | _ => none

/-- The value of the first attribute with some name, after `skip` characters.  An attribute may
start where `free` says so: at the start, after a space, a tab or a semicolon, and right after a
place where its name stands without being an attribute. -/
def attributeFrom? (name : List Char) : Nat → Bool → List Char → Option String
  | _, _, [] => none
  | skip + 1, _, _ :: rest => attributeFrom? name skip true rest
  | 0, free, c :: rest =>
      if name.isPrefixOf (c :: rest) then
        if free then attributeValue? ((c :: rest).drop name.length)
        else attributeFrom? name (name.length - 1) true rest
      else attributeFrom? name 0 (isSpace c || c == ';') rest

/-- The value of an attribute of a header. -/
def attribute? (name : String) (header : List Char) : Option String :=
  attributeFrom? name.toList 0 true header

/-- A part with some headers.  Of two headers with one name the later one counts. -/
def Part.ofHeaders (headers : List (String × List Char)) (content : Option String) : Part :=
  let disposition := (headers.reverse.lookup "content-disposition").getD []
  { name := attribute? "name" disposition
    fileName := attribute? "filename" disposition
    content }

/-! ## Parts -/

/-- Reads parts after a boundary, at most `fuel` of them. -/
def readParts (boundary : List Char) : Nat → List Char → FormData
  | 0, _ => ⟨[], false⟩
  | fuel + 1, cs =>
      if ['-', '-'].isPrefixOf cs then ⟨[], true⟩
      else
        let line := skipSpace cs
        if lineEnd.isPrefixOf line then
          match cutAt? (lineEnd ++ lineEnd) (line.drop lineEnd.length) with
          | none => ⟨[], false⟩
          | some (head, rest) =>
              match headers? (head ++ lineEnd) with
              | none => ⟨[], false⟩
              | some headers =>
                  match cutAt? (lineEnd ++ boundary) rest with
                  | none => ⟨[.ofHeaders headers none], false⟩
                  | some (content, rest) =>
                      let others := readParts boundary fuel rest
                      { others with
                        parts := .ofHeaders headers (some (String.ofList content)) :: others.parts }
        else ⟨[], false⟩

/-- Reads a body whose parts are separated by a boundary.  What stands before the first boundary
does not count. -/
def read (boundary body : String) : FormData :=
  let mark := ['-', '-'] ++ boundary.toList
  match cutAt? mark body.toList with
  | some (_, rest) => readParts mark (rest.length + 1) rest
  | none => ⟨[], false⟩

/-- The first part with a name. -/
def part? (form : FormData) (name : String) : Option Part := form.parts.find? (·.name == some name)

example :
    read "b" "--b\r\nContent-Disposition: form-data; name=\"x\"\r\n\r\n1\r\n--b--" =
      ⟨[⟨some "x", none, some "1"⟩], true⟩ := by
  decide +kernel

example : attribute? "name" "form-data; filename=\"a\"; name = b".toList = some "b" := by
  decide +kernel

end FormData

end PageBuilder
