import PageBuilder.Markup.Escape
import PageBuilder.Markup.Url
import PageBuilder.Markup.Style

/-!
# Markup

Pages are built as trees of elements and texts, and written as HTML in one place
(`Node.html`), where every text a user gave is escaped.
-/

namespace PageBuilder.Markup

/-- An attribute of an element: its name and value. -/
abbrev Attribute := String × String

/-- A piece of a page. -/
inductive Node where
  | element (tag : String) (attributes : List Attribute) (children : List Node)
  | text (s : String)
  /-- Some pieces side by side, without an element around them. -/
  | fragment (nodes : List Node)
  | script (body : String)
  | comment (body : String)

instance : Inhabited Node := ⟨.fragment []⟩

/-! ## Attributes -/

/-- An attribute that holds a URL. -/
def url (name value : String) : Attribute := (name, safeUrl value)

/-- An attribute without a value. -/
def flag (name : String) : Attribute := (name, "")

/-- The `class` attribute. -/
def cls (value : String) : Attribute := ("class", value)

/-- The `style` attribute, from a text. -/
def css (value : String) : Attribute := ("style", value)

/-- The `style` attribute, from rules. -/
def style (rules : List Rule) : Attribute := ("style", (Style.of rules).text)

namespace Node

/-- The elements that have neither children nor an end tag. -/
def voidTags : List String := ["area", "br", "hr", "img", "input", "link", "meta"]

/-! ## HTML -/

/-- The text of some attributes, a blank before each. -/
def attributesText (attributes : List Attribute) : String :=
  String.join (attributes.map fun (name, value) =>
    " " ++ name ++ "=\"" ++ escapeAttribute value ++ "\"")

mutual

/-- The HTML of a piece of a page. -/
def html : Node → String
  | .element tag attributes children =>
      "<" ++ tag ++ attributesText attributes ++ ">" ++
        if tag ∈ voidTags then "" else htmlAll children ++ "</" ++ tag ++ ">"
  | .text s => escapeText s
  | .fragment nodes => htmlAll nodes
  | .script body => "<script>" ++ guardEndTags body ++ "</script>"
  | .comment body => "<!-- " ++ commentText body ++ " -->"

/-- The HTML of some pieces, one after the other. -/
def htmlAll : List Node → String
  | [] => ""
  | n :: rest => html n ++ htmlAll rest

end

/-! ## Views -/

mutual

/-- The texts of a piece, scripts and comments aside. -/
def textContent : Node → String
  | .element _ _ children => textContentAll children
  | .text s => s
  | .fragment nodes => textContentAll nodes
  | .script _ => ""
  | .comment _ => ""

/-- The texts of some pieces. -/
def textContentAll : List Node → String
  | [] => ""
  | n :: rest => textContent n ++ textContentAll rest

end

mutual

/-- Every element in a piece, an outer one before those inside it. -/
def elements : Node → List Node
  | .element tag attributes children =>
      .element tag attributes children :: elementsAll children
  | .fragment nodes => elementsAll nodes
  | _ => []

/-- Every element in some pieces. -/
def elementsAll : List Node → List Node
  | [] => []
  | n :: rest => elements n ++ elementsAll rest

end

/-- The tag of an element. -/
def tag? : Node → Option String
  | .element tag _ _ => some tag
  | _ => none

/-- The value of the first attribute of that name. -/
def attribute? (name : String) : Node → Option String
  | .element _ attributes _ => attributes.lookup name
  | _ => none

/-- Every element with a tag. -/
def withTag (n : Node) (tag : String) : List Node := n.elements.filter (·.tag? == some tag)

end Node

end PageBuilder.Markup
