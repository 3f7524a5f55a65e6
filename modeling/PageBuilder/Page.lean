import PageBuilder.Blocks.Kind
import PageBuilder.Component
import PageBuilder.Settings

/-!
# Pages

Components as markup: their bare content, the canvas of the editor with a frame and controls
around each component, and the page that is exported.
-/

namespace PageBuilder

open Markup

namespace Component

/-- The content of a component, without the frame of the editor. -/
def content (c : Component) : Node :=
  match c.kind? with
  | some kind => kind.markup c.id c.data
  | none => .element "div" [css "padding: 2rem;"] [.text "Unknown component type"]

end Component

/-! ## The canvas -/

namespace Canvas

/-- The color of the frame of the selected component. -/
def selectedColor : String := "#0066ff"

/-- The color of the control that deletes a component. -/
def deleteColor : String := "#ef4444"

/-- A control of a component. -/
def control (id : Nat) (action title glyph color : String) : Node :=
  .element "button"
    [("type", "button"), ("data-action", action), ("data-id", toString id), ("title", title),
      style [
        .raw "padding: 0.5rem; background: white",
        .set "border" ("2px solid " ++ color),
        .raw "border-radius: 0.375rem; cursor: pointer; box-shadow: 0 2px 8px rgba(0,0,0,0.15)",
        .raw "font-weight: 700",
        .set "color" color,
        .raw "width: 36px; height: 36px; display: flex; align-items: center",
        .raw "justify-content: center"]]
    [.text glyph]

/-- The controls of a component, which are seen while it is selected. -/
def controls (id : Nat) (visible : Bool) : Node :=
  .element "div"
    [cls "component-controls",
      style [
        .raw "position: absolute; top: 0.5rem; right: 0.5rem; display: flex; gap: 0.5rem",
        .set "opacity" (if visible then "1" else "0"),
        .raw "transition: opacity 0.2s; z-index: 1000"]]
    [control id "up" "Move Up" "\u2191" selectedColor,
      control id "down" "Move Down" "\u2193" selectedColor,
      control id "delete" "Delete" "\u00d7" deleteColor]

/-- A component in its frame. -/
def frame (c : Component) (selected : Bool) : Node :=
  .element "div"
    [cls (if selected then "canvas-component selected" else "canvas-component"),
      ("data-id", toString c.id), ("data-type", c.typeName),
      style [
        .raw "position: relative",
        .set "border" ("2px solid " ++ if selected then selectedColor else "transparent"),
        .raw "cursor: pointer; transition: all 0.2s; min-height: 60px"]]
    [c.content, controls c.id selected]

/-- What is shown of a page without components. -/
def placeholder : Node :=
  .element "div"
    [cls "canvas-placeholder",
      css "min-height: 400px; display: flex; flex-direction: column; align-items: center; justify-content: center; text-align: center; padding: 4rem 2rem; color: var(--text-tertiary);"]
    [.element "div"
      [cls "placeholder-icon", css "font-size: 4rem; margin-bottom: 1rem;"]
      [.text "👆"],
      .element "p" [] [.text "Drag components here to start building"]]

/-- The canvas of some components, one of which may be selected. -/
def of (components : List Component) (selected : Option Nat) : Node :=
  if components.isEmpty then placeholder
  else .fragment (components.map fun c => frame c (selected == some c.id))

end Canvas

/-! ## The exported page -/

namespace Page

/-- The body of a page: the content of its components. -/
def body (components : List Component) : String :=
  "\n".intercalate (components.map fun c => c.content.html)

/-- A page that stands for itself. -/
def html (components : List Component) (settings : Settings) : String :=
  "<!DOCTYPE html>\n<html lang=\"en\">\n<head>\n<meta charset=\"UTF-8\">\n" ++
    "<meta name=\"viewport\" content=\"width=device-width, initial-scale=1.0\">\n<title>" ++
    escapeText settings.title ++ "</title>\n<style>\n" ++
    guardEndTags settings.theme.stylesheet ++ "</style>\n</head>\n<body>\n" ++
    body components ++ "\n</body>\n</html>\n"

end Page

end PageBuilder
