/-!
# Kinds of components

The thirty-six kinds of components a page is built from, in the order of the palette, with the
name each is stored under and the label editors show.  Names identify kinds: `Kind.ofName?` finds
a kind exactly by its name.
-/

namespace PageBuilder

/-- A kind of component. -/
inductive Kind where
  | hero
  | text
  | image
  | features
  | cta
  | gallery
  | team
  | stats
  | faq
  | contact
  | newsletter
  | logos
  | timeline
  | video
  | footer
  | navbar
  | blog
  | imagetext
  | callout
  | progress
  | social
  | map
  | testimonials
  | pricing
  | accordion
  | tabs
  | cards
  | countdown
  | quote
  | steps
  | banner
  | metrics
  | portfolio
  | columns
  | separator
  | graph
deriving DecidableEq, Repr

namespace Kind

/-- Every kind, in the order of the palette. -/
def all : List Kind :=
  [.hero, .text, .image, .features, .cta, .gallery, .team, .stats, .faq, .contact, .newsletter,
   .logos, .timeline, .video, .footer, .navbar, .blog, .imagetext, .callout, .progress, .social,
   .map, .testimonials, .pricing, .accordion, .tabs, .cards, .countdown, .quote, .steps, .banner,
   .metrics, .portfolio, .columns, .separator, .graph]

/-- The name a kind is stored under. -/
def name : Kind → String
  | .hero => "hero"
  | .text => "text"
  | .image => "image"
  | .features => "features"
  | .cta => "cta"
  | .gallery => "gallery"
  | .team => "team"
  | .stats => "stats"
  | .faq => "faq"
  | .contact => "contact"
  | .newsletter => "newsletter"
  | .logos => "logos"
  | .timeline => "timeline"
  | .video => "video"
  | .footer => "footer"
  | .navbar => "navbar"
  | .blog => "blog"
  | .imagetext => "imagetext"
  | .callout => "callout"
  | .progress => "progress"
  | .social => "social"
  | .map => "map"
  | .testimonials => "testimonials"
  | .pricing => "pricing"
  | .accordion => "accordion"
  | .tabs => "tabs"
  | .cards => "cards"
  | .countdown => "countdown"
  | .quote => "quote"
  | .steps => "steps"
  | .banner => "banner"
  | .metrics => "metrics"
  | .portfolio => "portfolio"
  | .columns => "columns"
  | .separator => "separator"
  | .graph => "graph"

/-- The label editors show. -/
def label : Kind → String
  | .hero => "Hero Section"
  | .text => "Text Block"
  | .image => "Image"
  | .features => "Features"
  | .cta => "Call to Action"
  | .gallery => "Gallery"
  | .team => "Team"
  | .stats => "Stats"
  | .faq => "FAQ"
  | .contact => "Contact Form"
  | .newsletter => "Newsletter"
  | .logos => "Logo Cloud"
  | .timeline => "Timeline"
  | .video => "Video"
  | .footer => "Footer"
  | .navbar => "Navigation Bar"
  | .blog => "Blog Posts"
  | .imagetext => "Image + Text"
  | .callout => "Callout"
  | .progress => "Progress Bars"
  | .social => "Social Links"
  | .map => "Map"
  | .testimonials => "Testimonials"
  | .pricing => "Pricing Table"
  | .accordion => "Accordion"
  | .tabs => "Tabs"
  | .cards => "Cards"
  | .countdown => "Countdown"
  | .quote => "Quote"
  | .steps => "Steps"
  | .banner => "Banner"
  | .metrics => "Metrics"
  | .portfolio => "Portfolio"
  | .columns => "Columns"
  | .separator => "Separator"
  | .graph => "Chart"

/-- The kind with this name. -/
def ofName? (s : String) : Option Kind := all.find? (·.name == s)

/-- Every kind is in the palette. -/
theorem mem_all (k : Kind) : k ∈ all := by cases k <;> decide

/-- Each kind is found by its name. -/
theorem ofName?_name (k : Kind) : ofName? k.name = some k := by cases k <;> rfl

/-- A kind found by a name has that name. -/
theorem name_of_ofName? {s : String} {k : Kind} (h : ofName? s = some k) : k.name = s := by
  simpa using List.find?_some h

end Kind

end PageBuilder
