import PageBuilder.Catalog.Template
import PageBuilder.Chart.Palette
import PageBuilder.Fields

/-!
# Lists of components

Some kinds own a repeating list: features, plans, team members.  This module names each list, and
says what is appended to it when a user asks for one more item.  `Kind.defaultItem` gives an item
exactly for the lists a kind owns.
-/

namespace PageBuilder

/-- The fewest items a list may be left with. -/
def minItems : Nat := 1

/-- A list that a kind of component owns. -/
structure ListSpec where
  /-- Where the list is kept in the component's data. -/
  name : String
  /-- The heading of the list in a form. -/
  title : String
  /-- What one item is called. -/
  itemLabel : String
deriving DecidableEq, Repr

namespace Kind

/-- The lists a kind owns. -/
def lists : Kind → List ListSpec
  | features => [⟨"features", "Features", "Feature"⟩]
  | gallery => [⟨"images", "Images", "Image"⟩]
  | team => [⟨"members", "Team Members", "Member"⟩]
  | stats => [⟨"stats", "Stats", "Stat"⟩]
  | faq => [⟨"faqs", "Questions", "Question"⟩]
  | logos => [⟨"logos", "Logos", "Logo"⟩]
  | timeline => [⟨"events", "Events", "Event"⟩]
  | footer => [⟨"columns", "Footer Columns", "Column"⟩]
  | blog => [⟨"posts", "Blog Posts", "Post"⟩]
  | progress => [⟨"skills", "Skills", "Skill"⟩]
  | social => [⟨"links", "Social Links", "Link"⟩]
  | testimonials => [⟨"testimonials", "Testimonials", "Testimonial"⟩]
  | pricing => [⟨"plans", "Pricing Plans", "Plan"⟩]
  | accordion => [⟨"items", "Items", "Item"⟩]
  | tabs => [⟨"tabs", "Tabs", "Tab"⟩]
  | cards => [⟨"cards", "Cards", "Card"⟩]
  | steps => [⟨"steps", "Steps", "Step"⟩]
  | metrics => [⟨"metrics", "Metrics", "Metric"⟩]
  | portfolio => [⟨"projects", "Projects", "Project"⟩]
  | graph => [⟨"datasets", "Datasets", "Dataset"⟩]
  | _ => []

/-- The list of that name, if the kind owns it. -/
def list? (k : Kind) (name : String) : Option ListSpec := k.lists.find? (·.name == name)

end Kind

/-! ## New items -/

namespace NewItem

open Template

/-- The placeholder value of a new data series at a label: between 10 and 100, and different from
series to series. -/
def sampleValue (label series : Nat) : Nat := 10 + (label * 17 + series * 29) % 91

/-- A new step is numbered after those that are there. -/
def step (component : Object) : Json :=
  record [
    ("number", toString ((component.list "steps").length + 1)), ("title", "New Step"),
    ("description", "Description")]

/-- A new data series has one value for each label and takes the next color. -/
def series (component : Object) : Json :=
  let existing := (component.list "datasets").length
  let values := (List.range (component.list "labels").length).map fun i =>
    Json.nat (sampleValue i existing)
  record [
    ("label", "Dataset " ++ toString (existing + 1)), ("data", .arr values),
    ("color", Chart.paletteColor existing)]

end NewItem

open Template in
/-- What is appended to the list `list` of a component of kind `k` that holds `component`. -/
def Kind.defaultItem (k : Kind) (list : String) (component : Object) : Option Json :=
  match k, list with
  | .features, "features" =>
      some (record [
        ("icon", "⭐"), ("title", "New Feature"), ("description", "Add your description here")])
  | .gallery, "images" =>
      some "https://images.unsplash.com/photo-1460925895917-afdab827c52f?w=400"
  | .team, "members" =>
      some (record [
        ("name", "New Member"), ("role", "Role"),
        ("image", "https://images.unsplash.com/photo-1472099645785-5658abf4ff4e?w=400"),
        ("bio", "Short bio")])
  | .stats, "stats" => some (record [("number", "100+"), ("label", "New Stat")])
  | .faq, "faqs" => some (record [("question", "New Question"), ("answer", "Your answer here")])
  | .logos, "logos" =>
      some "https://images.unsplash.com/photo-1599305445671-ac291c95aaa9?w=200&h=80&fit=crop"
  | .timeline, "events" =>
      some (record [
        ("year", "2025"), ("title", "New Milestone"), ("description", "Describe this milestone")])
  | .footer, "columns" =>
      some (record [("title", "New Column"), ("links", .arr ["Link 1", "Link 2", "Link 3"])])
  | .blog, "posts" =>
      some (record [
        ("image", "https://images.unsplash.com/photo-1499750310107-5fef28a66643?w=400"),
        ("title", "New Article"), ("excerpt", "Article description goes here."),
        ("date", "Jan 1, 2025"), ("readTime", "5 min read"), ("link", "#")])
  | .progress, "skills" => some (record [("name", "New Skill"), ("percentage", 75)])
  | .social, "links" =>
      some (record [("platform", "New Platform"), ("url", "https://example.com"), ("icon", "🔗")])
  | .testimonials, "testimonials" =>
      some (record [
        ("rating", 5), ("text", "Great service!"), ("name", "Customer Name"), ("role", "Position")])
  | .pricing, "plans" =>
      some (record [
        ("name", "New Plan"), ("price", "19"),
        ("features", .arr ["Feature 1", "Feature 2", "Feature 3"]),
        ("buttonText", "Get Started"), ("buttonUrl", "#")])
  | .accordion, "items" =>
      some (record [("title", "New Question"), ("content", "Your answer here")])
  | .tabs, "tabs" => some (record [("title", "New Tab"), ("content", "Tab content here")])
  | .cards, "cards" =>
      some (record [("icon", "⭐"), ("title", "New Card"), ("description", "Description here")])
  | .steps, "steps" => some (NewItem.step component)
  | .metrics, "metrics" =>
      some (record [("number", "100+"), ("label", "New Metric"), ("icon", "📊")])
  | .portfolio, "projects" =>
      some (record [
        ("image", "https://images.unsplash.com/photo-1460925895917-afdab827c52f?w=500"),
        ("title", "New Project"), ("category", "Category")])
  | .graph, "datasets" => some (NewItem.series component)
  | _, _ => none

end PageBuilder
