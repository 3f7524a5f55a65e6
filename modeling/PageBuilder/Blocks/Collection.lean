import PageBuilder.Blocks.Parts

/-!
# Collections

Blocks that lay out a list of items in a grid: features, people, numbers, articles, plans.
-/

namespace PageBuilder.Blocks

open Markup

/-- The background of sections that stand out from the page. -/
def paleBackground : String := "#f8fafc"

/-! ## Features, cards and steps -/

def feature (item : Object) : Node :=
  box "text-align: center; padding: 2rem;"
    [leaf "div" "font-size: 3rem; margin-bottom: 1rem;" (item.text "icon"),
      leaf "h3" "font-size: 1.25rem; margin-bottom: 0.5rem;" (item.text "title"),
      leaf "p" "color: #64748b;" (item.text "description")]

/-- What a product offers. -/
def features (d : Object) : Node :=
  sectionBox (d.text "backgroundColor")
    [container "1000px"
      [heading (d.text "heading") "3rem",
        grid "250px" "2rem" ((d.records "features").map feature)]]

def cardItem (item : Object) : Node :=
  card "2.5rem" []
    [leaf "div" "font-size: 3.5rem; margin-bottom: 1rem; text-align: center;" (item.text "icon"),
      leaf "h3" "font-size: 1.5rem; margin-bottom: 1rem; font-weight: 700; text-align: center;"
        (item.text "title"),
      muted (item.text "description")]

/-- Cards with an icon. -/
def cards (d : Object) : Node :=
  sectionBox paleBackground
    [container "1000px"
      [heading (d.text "heading") "3rem",
        grid "280px" "2rem" ((d.records "cards").map cardItem)]]

def step (item : Object) : Node :=
  box "text-align: center; position: relative;"
    [badge (item.text "number") "2rem" "0 auto 1.5rem",
      leaf "h3" "font-size: 1.25rem; margin-bottom: 0.75rem; font-weight: 700;"
        (item.text "title"),
      muted (item.text "description")]

/-- Numbered steps. -/
def steps (d : Object) : Node :=
  sectionBox none
    [container "1000px"
      [heading (d.text "heading") "4rem", grid "250px" "3rem" ((d.records "steps").map step)]]

/-! ## Images -/

/-- How wide the columns of a gallery are. -/
def galleryColumns : String → String
  | "auto-fit" => "repeat(auto-fit, minmax(250px, 1fr))"
  | "" => "repeat(auto-fit, minmax(250px, 1fr))"
  | count => "repeat(" ++ count ++ ", 1fr)"

/-- Images in a grid. -/
def gallery (d : Object) : Node :=
  let picture (source : String) : Node :=
    el "img"
      [url "src" source,
        style [
          .raw "width: 100%",
          .set "height" (d.text "imageHeight"),
          .raw "object-fit: cover; border-radius: 0.5rem"]]
      []
  sectionBox none
    [container "1200px"
      [el "div"
        [style [
          .raw "display: grid",
          .set "grid-template-columns" (galleryColumns (d.text "columns")),
          .set "gap" (d.text "gap")]]
        ((d.strings "images").map picture)]]

def logo (source : String) : Node :=
  el "img"
    [url "src" source, ("alt", ""),
      css "width: 100%; height: 60px; object-fit: contain; filter: grayscale(100%); opacity: 0.6; transition: all 0.3s;"]
    []

/-- The logos of partners. -/
def logos (d : Object) : Node :=
  sectionBox paleBackground
    [container "1000px"
      [heading (d.text "heading") "3rem", grid "150px" "2rem" ((d.strings "logos").map logo)]]

def work (item : Object) : Node :=
  box "position: relative; overflow: hidden; border-radius: 1rem; cursor: pointer; aspect-ratio: 4/3;"
    [el "img"
      [url "src" (item.text "image"), ("alt", item.text "title"),
        css "width: 100%; height: 100%; object-fit: cover; transition: transform 0.3s;"]
      [],
      box "position: absolute; bottom: 0; left: 0; right: 0; background: linear-gradient(to top, rgba(0,0,0,0.8), transparent); padding: 2rem 1.5rem 1.5rem; color: white;"
        [leaf "div" "font-size: 0.75rem; text-transform: uppercase; letter-spacing: 0.1em; opacity: 0.8; margin-bottom: 0.25rem;"
          (item.text "category"),
          leaf "h3" "font-size: 1.25rem; font-weight: 700;" (item.text "title")]]

/-- Pictures of finished work. -/
def portfolio (d : Object) : Node :=
  sectionBox paleBackground
    [container "1200px"
      [heading (d.text "heading") "3rem",
        grid "300px" "2rem" ((d.records "projects").map work)]]

/-! ## People -/

def member (item : Object) : Node :=
  box "text-align: center;"
    [el "img"
      [url "src" (item.text "image"), ("alt", item.text "name"),
        css "width: 150px; height: 150px; border-radius: 50%; object-fit: cover; margin-bottom: 1rem;"]
      [],
      leaf "h3" "font-size: 1.25rem; margin-bottom: 0.25rem;" (item.text "name"),
      leaf "p" "color: #0066cc; font-weight: 600; margin-bottom: 0.5rem;" (item.text "role"),
      leaf "p" "color: #64748b; font-size: 0.9rem;" (item.text "bio")]

/-- The members of a team. -/
def team (d : Object) : Node :=
  sectionBox none
    [container "1000px"
      [heading (d.text "heading") "3rem", grid "250px" "2rem" ((d.records "members").map member)]]

/-- How many of five stars a rating shows. -/
def starCount (item : Object) : Nat :=
  let rating := (item.number? "rating").getD 0
  if rating < 0 then 0 else if 5 < rating then 5 else rating.toUInt64.toNat

def testimonial (item : Object) : Node :=
  card "2rem" []
    [leaf "div" "margin-bottom: 1rem;" (String.ofList (List.replicate (starCount item) '⭐')),
      leaf "p" "font-style: italic; margin-bottom: 1rem;" ("\"" ++ item.text "text" ++ "\""),
      leaf "p" "font-weight: 600;" (item.text "name"),
      leaf "p" "font-size: 0.875rem; opacity: 0.7;" (item.text "role")]

/-- What customers say. -/
def testimonials (d : Object) : Node :=
  sectionBox paleBackground
    [container "1000px"
      [heading (d.text "heading") "3rem",
        grid "300px" "2rem" ((d.records "testimonials").map testimonial)]]

/-! ## Numbers -/

def stat (item : Object) : Node :=
  box "text-align: center;"
    [el "div"
      [style [
        .raw "font-size: 3rem; font-weight: 800",
        .set "color" accentColor,
        .raw "margin-bottom: 0.5rem"]]
      [.text (item.text "number")],
      leaf "div" "color: #64748b; font-weight: 500;" (item.text "label")]

/-- Numbers with a label. -/
def stats (d : Object) : Node :=
  sectionBox (d.text "backgroundColor")
    [container "1000px" [grid "200px" "3rem" ((d.records "stats").map stat)]]

def metric (item : Object) : Node :=
  box "text-align: center;"
    [leaf "div" "font-size: 3rem; margin-bottom: 0.5rem;" (item.text "icon"),
      leaf "div" "font-size: 3rem; font-weight: 800; color: #0066cc; margin-bottom: 0.5rem;"
        (item.text "number"),
      leaf "div" "color: #64748b; font-weight: 500;" (item.text "label")]

/-- Numbers with an icon. -/
def metrics (d : Object) : Node :=
  sectionBox (d.text "backgroundColor")
    [container "1000px" [grid "200px" "3rem" ((d.records "metrics").map metric)]]

/-- How far a progress bar is filled, out of a hundred. -/
def percentageText (item : Object) : String :=
  let x := (item.number? "percentage").getD 0
  numberText (if x < 0 then 0 else if 100 < x then 100 else x)

def skill (item : Object) : Node :=
  let percentage := percentageText item ++ "%"
  box "margin-bottom: 2rem;"
    [box "display: flex; justify-content: space-between; margin-bottom: 0.5rem;"
      [leaf "span" "font-weight: 600;" (item.text "name"),
        leaf "span" "color: #0066cc; font-weight: 600;" percentage],
      box "background: #e2e8f0; height: 12px; border-radius: 9999px; overflow: hidden;"
        [el "div"
          [style [
            .raw "background: linear-gradient(90deg, #0066cc, #00a8ff); height: 100%",
            .set "width" percentage,
            .raw "border-radius: 9999px; transition: width 1s"]]
          []]]

/-- Progress bars. -/
def progress (d : Object) : Node :=
  sectionBox paleBackground
    [container "800px" (heading (d.text "heading") "3rem" :: (d.records "skills").map skill)]

/-! ## Articles and plans -/

def post (item : Object) : Node :=
  el "article"
    [css "background: white; border-radius: 1rem; overflow: hidden; box-shadow: 0 4px 6px rgba(0,0,0,0.1); transition: transform 0.2s;"]
    [el "img"
      [url "src" (item.text "image"), ("alt", item.text "title"),
        css "width: 100%; height: 200px; object-fit: cover;"]
      [],
      box "padding: 1.5rem;"
        [box "display: flex; gap: 1rem; font-size: 0.875rem; color: #64748b; margin-bottom: 0.75rem;"
          [el "span" [] [.text (item.text "date")],
            el "span" [] [.text "\u2022"],
            el "span" [] [.text (item.text "readTime")]],
          leaf "h3" "font-size: 1.25rem; margin-bottom: 0.75rem;" (item.text "title"),
          leaf "p" "color: #64748b; margin-bottom: 1rem; line-height: 1.6;" (item.text "excerpt"),
          el "a"
            [url "href" (item.text "link"),
              css "color: #0066cc; font-weight: 600; text-decoration: none;"]
            [.text "Read More \u2192"]]]

/-- Articles of a blog. -/
def blog (d : Object) : Node :=
  sectionBox none
    [container "1000px"
      [heading (d.text "heading") "3rem", grid "300px" "2rem" ((d.records "posts").map post)]]

def plan (item : Object) : Node :=
  card "2rem" [("data-plan", item.text "name")]
    [leaf "h3" "font-size: 1.5rem; margin-bottom: 1rem; text-align: center;" (item.text "name"),
      box "font-size: 2.5rem; font-weight: 800; margin-bottom: 1rem; text-align: center;"
        [.text ("$" ++ item.text "price"),
          leaf "span" "font-size: 1rem; font-weight: normal;" "/mo"],
      el "ul" [css "list-style: none; margin-bottom: 2rem; text-align: left; padding: 0;"]
        ((item.strings "features").map fun feature =>
          leaf "li" "padding: 0.5rem 0;" ("\u2713 " ++ feature)),
      el "a"
        [url "href" (item.text "buttonUrl"),
          css "display: block; padding: 0.75rem; background: #0066cc; color: white; text-decoration: none; border-radius: 0.5rem; font-weight: 600; text-align: center;"]
        [.text (item.text "buttonText")]]

/-- Plans and their prices. -/
def pricing (d : Object) : Node :=
  sectionBox none
    [container "1000px"
      [heading (d.text "heading") "3rem", grid "250px" "2rem" ((d.records "plans").map plan)]]

end PageBuilder.Blocks
