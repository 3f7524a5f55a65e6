import PageBuilder.Markup.Node
import PageBuilder.Fields

/-!
# Parts of blocks

What several kinds of components are built from: sections, columns, headings, grids, cards and
buttons.  Component data is read through its forgiving fields, so every part can be drawn from any
data.
-/

namespace PageBuilder.Blocks

open Markup

/-! ## Colors -/

def buttonColor : String := "#0066cc"

def buttonTextColor : String := "#ffffff"

def textColor : String := "#1a1a1a"

def mutedColor : String := "#64748b"

def accentColor : String := "#0066cc"

/-- The background of a component: a gradient if it asks for one, else its background, else its
background color. -/
def background (d : Object) : String :=
  if d.text "backgroundType" = "gradient" then
    "linear-gradient(135deg, " ++ d.textOr "gradientStart" "#667eea" ++ ", " ++
      d.textOr "gradientEnd" "#764ba2" ++ ")"
  else d.textOr "background" (d.text "backgroundColor")

/-! ## Elements -/

/-- An element with attributes and children. -/
def el (tag : String) (attributes : List Attribute) (children : List Node) : Node :=
  .element tag attributes children

/-- An element that has only a fixed style and a text. -/
def leaf (tag declarations content : String) : Node := el tag [css declarations] [.text content]

/-- A box with a fixed style. -/
def box (declarations : String) (children : List Node) : Node :=
  el "div" [css declarations] children

/-- A centered column of content. -/
def container (maxWidth : String) (children : List Node) : Node :=
  el "div" [style [.set "max-width" maxWidth, .raw "margin: 0 auto"]] children

/-- A section with the usual padding and a background, if one is given. -/
def sectionBox (background : Option String) (children : List Node) : Node :=
  let rules := background.toList.map fun b => Rule.set "background" b
  el "div" [style (.raw "padding: 4rem 2rem" :: rules)] children

/-- The centered title of a section. -/
def heading (content marginBottom : String) : Node :=
  el "h2"
    [style [.raw "font-size: 2rem; text-align: center", .set "margin-bottom" marginBottom]]
    [.text content]

/-- A grid whose columns fit the width of the page. -/
def grid (minColumn gap : String) (children : List Node) : Node :=
  el "div"
    [style [
      .raw "display: grid",
      .set "grid-template-columns" ("repeat(auto-fit, minmax(" ++ minColumn ++ ", 1fr))"),
      .set "gap" gap]]
    children

/-- A paragraph of description. -/
def muted (content : String) : Node :=
  el "p" [style [.set "color" mutedColor, .raw "line-height: 1.6"]] [.text content]

/-- The button of a component, unless its text is empty. -/
def button? (d : Object) : List Node :=
  let label := d.text "buttonText"
  if label.isEmpty then []
  else
    [el "a"
      [url "href" (d.text "buttonUrl"),
        style [
          .raw "display: inline-block; padding: 0.75rem 2rem",
          .set "background" (d.textOr "buttonColor" buttonColor),
          .set "color" (d.textOr "buttonTextColor" buttonTextColor),
          .raw "text-decoration: none; border-radius: 0.5rem; font-weight: 600"]]
      [.text label]]

/-- A white card with a soft shadow. -/
def card (padding : String) (attributes : List Attribute) (children : List Node) : Node :=
  el "div"
    (style [
      .raw "background: white",
      .set "padding" padding,
      .raw "border-radius: 1rem; box-shadow: 0 4px 6px rgba(0,0,0,0.1)"] :: attributes)
    children

/-- A round badge that holds a short text. -/
def badge (content fontSize margin : String) : Node :=
  el "div"
    [style [
      .raw "flex-shrink: 0; width: 80px; height: 80px; border-radius: 50%",
      .raw "background: linear-gradient(135deg, #667eea, #764ba2); color: white",
      .raw "display: flex; align-items: center; justify-content: center",
      .set "font-size" fontSize,
      .raw "font-weight: 800",
      .set "margin" margin]]
    [.text content]

end PageBuilder.Blocks
