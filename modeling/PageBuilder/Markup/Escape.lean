/-!
# Escaping

How texts are put into a page: as text, as the value of an attribute in double quotes, as the
body of a script and as the body of a comment.  Each of these keeps the text from ending the place
it stands in.
-/

namespace PageBuilder.Markup

/-- How a text holds a character. -/
def textEntity (c : Char) : List Char :=
  if c = '&' then "&amp;".toList
  else if c = '<' then "&lt;".toList
  else if c = '>' then "&gt;".toList
  else [c]

/-- How the value of an attribute holds a character. -/
def attributeEntity (c : Char) : List Char :=
  if c = '"' then "&quot;".toList
  else if c = '\'' then "&#39;".toList
  else textEntity c

/-- A text, for use between tags. -/
def escapeText (s : String) : String := String.ofList (s.toList.flatMap textEntity)

/-- A text, for use between the double quotes of an attribute. -/
def escapeAttribute (s : String) : String := String.ofList (s.toList.flatMap attributeEntity)

/-- Puts a backslash between `<` and `/`. -/
def breakEndTags : List Char → List Char
  | '<' :: '/' :: rest => '<' :: '\\' :: '/' :: breakEndTags rest
  | c :: rest => c :: breakEndTags rest
  | [] => []

/-- A script or style sheet in which no end tag can be found. -/
def guardEndTags (s : String) : String := String.ofList (breakEndTags s.toList)

/-- Takes out pairs of hyphens, from left to right. -/
def dropDoubleHyphens : List Char → List Char
  | '-' :: '-' :: rest => dropDoubleHyphens rest
  | c :: rest => c :: dropDoubleHyphens rest
  | [] => []

/-- A text, for use in a comment. -/
def commentText (s : String) : String := String.ofList (dropDoubleHyphens s.toList)

end PageBuilder.Markup
