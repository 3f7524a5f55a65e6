import PageBuilder.Blocks.Parts

/-!
# Leading blocks

Blocks that open a page or call its reader to act: heroes, calls to action, newsletters, banners,
callouts and quotes.
-/

namespace PageBuilder.Blocks

open Markup

/-- A large opening section with a title and a button. -/
def hero (d : Object) : Node :=
  el "div"
    [style [
      .set "min-height" (d.text "minHeight"),
      .raw "display: flex; align-items: center; justify-content: center",
      .set "text-align" (d.text "textAlign"),
      .raw "padding: 4rem 2rem",
      .set "background" (background d),
      .set "color" (d.textOr "textColor" textColor)]]
    [box "max-width: 800px;"
      ([leaf "h1" "font-size: 3rem; margin-bottom: 1rem;" (d.text "title"),
        leaf "p" "font-size: 1.25rem; margin-bottom: 2rem; opacity: 0.8;" (d.text "subtitle")] ++
        button? d)]

/-- A call to action.  Without a text color of its own the button takes the first color of the
gradient, which matches the background. -/
def cta (d : Object) : Node :=
  el "div"
    [style [
      .raw "padding: 6rem 2rem",
      .set "background" (background d),
      .set "color" (d.textOr "textColor" buttonTextColor),
      .raw "text-align: center"]]
    [container "800px"
      [leaf "h2" "font-size: 2.5rem; margin-bottom: 1rem;" (d.text "heading"),
        leaf "p" "font-size: 1.25rem; margin-bottom: 2rem; opacity: 0.9;" (d.text "subtitle"),
        el "a"
          [url "href" (d.text "buttonUrl"),
            style [
              .raw "display: inline-block; padding: 1rem 2.5rem",
              .set "background" (d.textOr "buttonColor" buttonTextColor),
              .set "color" (d.textOr "buttonTextColor" (d.textOr "gradientStart" buttonColor)),
              .raw "text-decoration: none; border-radius: 0.5rem; font-weight: 700"]]
          [.text (d.text "buttonText")]]]

/-- A form that asks for a mail address. -/
def newsletter (d : Object) : Node :=
  el "div"
    [style [
      .raw "padding: 6rem 2rem",
      .set "background" (background d),
      .raw "color: white; text-align: center"]]
    [container "600px"
      [leaf "h2" "font-size: 2.5rem; margin-bottom: 1rem;" (d.text "heading"),
        leaf "p" "font-size: 1.125rem; margin-bottom: 2rem; opacity: 0.9;" (d.text "subtitle"),
        el "form" [css "display: flex; gap: 1rem;"]
          [el "input"
            [("type", "email"), ("placeholder", "Enter your email"),
              css "flex: 1; padding: 1rem; border: none; border-radius: 0.5rem; font-size: 1rem;"]
            [],
            el "button"
              [("type", "submit"),
                style [
                  .raw "padding: 1rem 2rem; background: white",
                  .set "color" (d.textOr "gradientStart" buttonColor),
                  .raw "border: none; border-radius: 0.5rem; font-weight: 700; cursor: pointer"]]
              [.text (d.text "buttonText")]]]]

/-- A strip with an announcement, a button unless its text is empty, and a way to dismiss it. -/
def banner (d : Object) : Node :=
  let color := d.text "backgroundColor"
  let label := d.text "buttonText"
  let button :=
    if label.isEmpty then []
    else
      [el "a"
        [url "href" (d.text "buttonUrl"),
          style [
            .raw "padding: 0.5rem 1.5rem; background: white",
            .set "color" color,
            .raw "text-decoration: none; border-radius: 0.5rem; font-weight: 600"]]
        [.text label]]
  let dismiss :=
    if d.flag "dismissible" then
      [el "button"
        [css "background: none; border: none; color: white; cursor: pointer; font-size: 1.5rem; margin-left: auto;",
          ("aria-label", "Dismiss")]
        [.text "\u00d7"]]
    else []
  el "div"
    [style [
      .raw "padding: 1rem 2rem",
      .set "background" color,
      .set "color" (d.text "textColor"),
      .raw "text-align: center; display: flex; align-items: center; justify-content: center",
      .raw "gap: 2rem; flex-wrap: wrap"]]
    ([leaf "p" "font-weight: 600; margin: 0;" (d.text "text")] ++ button ++ dismiss)

/-- A framed remark with an icon. -/
def callout (d : Object) : Node :=
  sectionBox none
    [el "div"
      [style [
        .raw "max-width: 800px; margin: 0 auto",
        .set "background" (d.text "backgroundColor"),
        .set "border-left" ("4px solid " ++ d.text "borderColor"),
        .raw "padding: 2rem; border-radius: 0.5rem"]]
      [box "display: flex; gap: 1rem; align-items: start;"
        [leaf "div" "font-size: 2rem;" (d.text "icon"),
          box "flex: 1;"
            [leaf "h3" "font-size: 1.25rem; margin-bottom: 0.5rem; font-weight: 700;"
              (d.text "heading"),
              leaf "p" "line-height: 1.6;" (d.text "text")]]]]

/-- A quotation and its author. -/
def quote (d : Object) : Node :=
  sectionBox (d.text "backgroundColor")
    [box "max-width: 800px; margin: 0 auto; text-align: center;"
      [leaf "div" "font-size: 4rem; color: #0066cc; margin-bottom: 1rem;" "\"",
        el "p"
          [style [
            .set "font-size" (d.text "quoteSize"),
            .raw "font-style: italic; line-height: 1.6; margin-bottom: 2rem"]]
          [.text (d.text "quote")],
        leaf "p" "font-weight: 600; color: #64748b;" ("\u2014 " ++ d.text "author")]]

end PageBuilder.Blocks
