import PageBuilder.Catalog.Writer
import PageBuilder.Site.Basic

/-!
# The index page

The page that lists the projects of a site with links to their previews.  It also gives the palette
to scripts on the page.
-/

namespace PageBuilder.Site

open Markup

/-- The projects as links, or a hint how to create the first. -/
def projectLinks (s : Site) : Node :=
  match s.store.records with
  | [] => .element "p" [] [.text "No projects yet. Create one with POST /api/projects."]
  | records =>
      .element "ul" [] (records.map fun r =>
        .element "li" []
          [.element "a" [url "href" ("/preview/" ++ toString r.id)] [.text r.name]])

/-- The text of the palette for a script.  No `<` is left in it, so it cannot end the script. -/
def paletteText : String :=
  String.ofList (Kind.palette.compact.toList.flatMap fun c =>
    if c = '<' then "\\u003c".toList else [c])

/-- The index page. -/
def indexPage (s : Site) : String :=
  "<!DOCTYPE html>\n<html lang=\"en\">\n<head>\n<meta charset=\"UTF-8\">\n" ++
    "<title>Tessera</title>\n<script>window.__COMPONENT_TYPES=" ++ paletteText ++
    "</script>\n</head>\n" ++
    "<body style=\"font-family: system-ui, sans-serif; padding: 2rem;\">\n<h1>Projects</h1>\n" ++
    s.projectLinks.html ++ "\n<p style=\"color: #64748b;\">Plan: " ++
    escapeText s.store.plan.title ++ " (up to " ++ toString s.store.plan.componentLimit ++
    " components per page). Build " ++ toString s.booted ++ ".</p>\n</body>\n</html>\n"

end PageBuilder.Site
