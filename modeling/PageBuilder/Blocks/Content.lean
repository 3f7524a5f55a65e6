import PageBuilder.Blocks.Parts

/-!
# Content blocks

Blocks that hold text, images, embedded pages and columns, and the contact form.
-/

namespace PageBuilder.Blocks

open Markup

/-- A heading and a paragraph. -/
def text (d : Object) : Node :=
  el "div"
    [style [
      .raw "padding: 4rem 2rem",
      .set "text-align" (d.text "textAlign"),
      .set "background" (d.text "backgroundColor")]]
    [container "800px"
      [el "h2" [style [.set "font-size" (d.text "headingSize"), .raw "margin-bottom: 1rem"]]
        [.text (d.text "heading")],
        el "p"
          [style [.raw "font-size: 1.125rem; line-height: 1.7", .set "color" mutedColor]]
          [.text (d.text "content")]]]

/-- A single image. -/
def image (d : Object) : Node :=
  let alignment :=
    match d.text "alignment" with
    | "center" => [Rule.raw "margin: 0 auto"]
    | "right" => [Rule.raw "margin-left: auto"]
    | _ => []
  sectionBox none
    [el "img"
      [url "src" (d.text "src"), ("alt", d.text "alt"),
        style ([
          .set "width" (d.text "width"),
          .set "max-width" (d.text "maxWidth"),
          .set "border-radius" (d.text "borderRadius"),
          .raw "display: block"] ++ alignment)]
      []]

/-- An image with a text beside it. -/
def imagetext (d : Object) : Node :=
  let direction := if d.text "imagePosition" = "left" then "row" else "row-reverse"
  sectionBox (d.text "backgroundColor")
    [el "div"
      [style [
        .raw "max-width: 1000px; margin: 0 auto; display: flex",
        .set "flex-direction" direction,
        .raw "gap: 3rem; align-items: center"]]
      [box "flex: 1;"
        [el "img" [url "src" (d.text "image"), css "width: 100%; border-radius: 1rem;"] []],
        el "div" [style [.raw "flex: 1", .set "color" (d.textOr "textColor" textColor)]]
          ([leaf "h2" "font-size: 2rem; margin-bottom: 1rem;" (d.text "heading"),
            leaf "p" "font-size: 1.125rem; line-height: 1.7; opacity: 0.8; margin-bottom: 1.5rem;"
              (d.text "text")] ++
            button? d)]]

/-- The padding that gives a box of flexible width an aspect ratio. -/
def aspectPadding : String → String
  | "16/9" => "56.25%"
  | "4/3" => "75%"
  | "1/1" => "100%"
  | _ => "42.857%"

/-- An embedded video. -/
def video (d : Object) : Node :=
  sectionBox none
    [container (d.text "maxWidth")
      [heading (d.text "title") "2rem",
        el "div"
          [style [
            .raw "position: relative; width: 100%",
            .set "padding-bottom" (aspectPadding (d.text "aspectRatio")),
            .raw "border-radius: 1rem; overflow: hidden"]]
          [el "iframe"
            [url "src" (d.text "url"),
              css "position: absolute; top: 0; left: 0; width: 100%; height: 100%; border: none;",
              flag "allowfullscreen"]
            []]]]

/-- An embedded map and the address it shows. -/
def map (d : Object) : Node :=
  sectionBox none
    [container "1000px"
      [heading (d.text "heading") "1rem",
        leaf "p" "text-align: center; color: #64748b; margin-bottom: 2rem;" (d.text "address"),
        box "position: relative; width: 100%; height: 450px; border-radius: 1rem; overflow: hidden;"
          [el "iframe"
            [url "src" (d.text "embedUrl"), css "width: 100%; height: 100%; border: none;",
              flag "allowfullscreen", ("loading", "lazy")]
            []]]]

/-- Columns of text side by side. -/
def columns (d : Object) : Node :=
  sectionBox (d.text "backgroundColor")
    [container "1000px"
      [el "div"
        [style [
          .raw "display: grid",
          .set "grid-template-columns" ("repeat(" ++ d.textOr "columnCount" "1" ++ ", 1fr)"),
          .raw "gap: 2rem"]]
        ((d.records "columns").map fun column =>
          box "padding: 2rem; background: #f8fafc; border-radius: 0.5rem;"
            [leaf "p" "line-height: 1.7; color: #334155;" (column.text "content")])]]

/-- A horizontal line. -/
def separator (d : Object) : Node :=
  let line := d.text "thickness" ++ " " ++ d.text "style" ++ " " ++ d.text "color"
  el "div" [style [.set "padding" (d.text "spacing" ++ " 2rem")]]
    [container "1000px"
      [el "hr"
        [style [
          .raw "border: none",
          .set "border-top" line,
          .set "width" (d.text "width"),
          .raw "margin: 0 auto"]]
        []]]

/-- The style of an input of the contact form. -/
def contactInput : String :=
  "padding: 0.875rem; border: 2px solid #e2e8f0; border-radius: 0.5rem; font-size: 1rem;"

/-- A form that is sent by mail. -/
def contact (d : Object) : Node :=
  let email := d.textOr "email" "hello@example.com"
  sectionBox (d.text "backgroundColor")
    [container "600px"
      [heading (d.text "heading") "1rem",
        leaf "p" "text-align: center; color: #64748b; margin-bottom: 2rem;" (d.text "subtitle"),
        el "form"
          [css "display: flex; flex-direction: column; gap: 1rem;",
            url "action" ("mailto:" ++ email), ("method", "post"), ("enctype", "text/plain")]
          [el "input"
            [("type", "text"), ("name", "name"), ("placeholder", "Your Name"), css contactInput] [],
            el "input"
              [("type", "email"), ("name", "email"), ("placeholder", "Your Email"),
                css contactInput]
              [],
            el "textarea"
              [("name", "message"), ("placeholder", "Your Message"), ("rows", "5"),
                css (contactInput ++ " resize: vertical;")]
              [],
            el "button"
              [("type", "submit"),
                css "padding: 1rem; background: #0066cc; color: white; border: none; border-radius: 0.5rem; font-weight: 600; cursor: pointer;"]
              [.text "Send Message"]],
        leaf "p" "text-align: center; margin-top: 1rem; font-size: 0.875rem; color: #64748b;"
          ("Sends to: " ++ email)]]

end PageBuilder.Blocks
