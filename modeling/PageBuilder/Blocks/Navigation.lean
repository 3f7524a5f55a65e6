import PageBuilder.Blocks.Parts

/-!
# Navigation blocks

The bar at the top of a page, its footer, and links to other sites.
-/

namespace PageBuilder.Blocks

open Markup

/-- The bar at the top of a page. -/
def navbar (d : Object) : Node :=
  let sticky := d.flag "sticky"
  let links := (d.strings "links").map fun link =>
    el "a"
      [("href", "#"),
        style [.set "color" mutedColor, .raw "text-decoration: none; font-weight: 500"]]
      [.text link]
  let action :=
    el "a"
      [url "href" (d.text "ctaUrl"),
        css "padding: 0.5rem 1.5rem; background: #0066cc; color: white; text-decoration: none; border-radius: 0.5rem; font-weight: 600;"]
      [.text (d.text "ctaText")]
  el "nav"
    [style [
      .set "background" (d.text "backgroundColor"),
      .raw "padding: 1rem 2rem; border-bottom: 1px solid #e2e8f0",
      .setIf sticky "position" "sticky",
      .setIf sticky "top" "0",
      .setIf sticky "z-index" "100",
      .raw "min-height: 60px"]]
    [box "max-width: 1200px; margin: 0 auto; display: flex; justify-content: space-between; align-items: center;"
      [leaf "div" "font-size: 1.5rem; font-weight: 700;" (d.text "brand"),
        box "display: flex; align-items: center; gap: 2rem;" (links ++ [action])]]

/-- A column of links in a footer. -/
def footerColumn (column : Object) : Node :=
  el "div" []
    [leaf "h4" "font-weight: 700; margin-bottom: 1rem;" (column.text "title"),
      el "ul" [css "list-style: none; padding: 0;"]
        ((column.strings "links").map fun link =>
          el "li" [css "margin-bottom: 0.5rem;"]
            [el "a"
              [("href", "#"), css "color: white; opacity: 0.7; text-decoration: none;"]
              [.text link]])]

/-- The end of a page. -/
def footer (d : Object) : Node :=
  let brand :=
    el "div" []
      [leaf "h3" "font-size: 1.5rem; margin-bottom: 0.5rem; font-weight: 700;"
        (d.text "companyName"),
        leaf "p" "opacity: 0.7; margin-bottom: 1rem;" (d.text "tagline")]
  el "footer" [css "background: #1e293b; color: white; padding: 4rem 2rem 2rem;"]
    [container "1200px"
      [box "display: grid; grid-template-columns: repeat(auto-fit, minmax(200px, 1fr)); gap: 3rem; margin-bottom: 3rem;"
        (brand :: (d.records "columns").map footerColumn),
        leaf "div" "border-top: 1px solid rgba(255,255,255,0.1); padding-top: 2rem; text-align: center; opacity: 0.7;"
          (d.text "copyright")]]

/-- A round link to another site. -/
def socialLink (link : Object) : Node :=
  el "a"
    [url "href" (link.text "url"), ("target", "_blank"), ("rel", "noopener"),
      ("title", link.text "platform"),
      css "display: flex; align-items: center; justify-content: center; width: 50px; height: 50px; background: #0066cc; color: white; text-decoration: none; border-radius: 50%; font-size: 1.25rem; font-weight: 700; transition: transform 0.2s;"]
    [.text (link.text "icon")]

/-- Links to other sites. -/
def social (d : Object) : Node :=
  sectionBox none
    [box "max-width: 600px; margin: 0 auto; text-align: center;"
      [leaf "h2" "font-size: 2rem; margin-bottom: 2rem;" (d.text "heading"),
        box "display: flex; justify-content: center; gap: 1rem; flex-wrap: wrap;"
          ((d.records "links").map socialLink)]]

end PageBuilder.Blocks
