import PageBuilder.Form.Basic

/-!
# Layouts of forms

Which fields the form of each kind has, in order: those of the component itself
(`Form.entries`), and those of each item of its list (`Form.itemEntries`).  The fields of a kind
do not depend on the data; only how many items there are does.
-/

namespace PageBuilder

/-! ## Entries -/

/-- The part of a component, or of a list item, that a field is for. -/
inductive Target where
  /-- A field of the object. -/
  | field (key : String)
  /-- The list item itself, which is no object. -/
  | whole
  /-- The number of columns of a columns component. -/
  | columnCount
deriving DecidableEq, Repr

/-- A field as the layout of a kind declares it. -/
structure Entry where
  label : String
  target : Target
  control : Control
deriving DecidableEq, Repr

namespace Entry

def text (label key : String) : Entry := ⟨label, .field key, .text⟩

def longText (label key : String) : Entry := ⟨label, .field key, .longText⟩

def email (label key : String) : Entry := ⟨label, .field key, .email⟩

def color (label key : String) : Entry := ⟨label, .field key, .color⟩

def number (label key : String) : Entry := ⟨label, .field key, .number⟩

def checkbox (label key : String) : Entry := ⟨label, .field key, .checkbox⟩

def file (label key : String) : Entry := ⟨label, .field key, .file⟩

def date (label key : String) : Entry := ⟨label, .field key, .date⟩

def time (label key : String) : Entry := ⟨label, .field key, .time⟩

/-- A choice between texts. -/
def select (label key : String) (options : List (String × String)) : Entry :=
  ⟨label, .field key, .select options false⟩

/-- A choice between numbers. -/
def numericSelect (label key : String) (options : List (String × String)) : Entry :=
  ⟨label, .field key, .select options true⟩

/-- A list of texts. -/
def commaList (label key : String) : Entry := ⟨label, .field key, .commaList false⟩

/-- A list of numbers. -/
def numberList (label key : String) : Entry := ⟨label, .field key, .commaList true⟩

/-- The text and colors of a button, and where it leads. -/
def button (label : String) : List Entry :=
  [text label "buttonText", text "Button URL" "buttonUrl",
    color "Button Background Color" "buttonColor", color "Button Text Color" "buttonTextColor"]

end Entry

/-! ## Options -/

namespace Options

def alignment : List (String × String) :=
  [("left", "Left"), ("center", "Center"), ("right", "Right")]

def solidOrGradient : List (String × String) :=
  [("solid", "Solid Color"), ("gradient", "Gradient")]

def gradientOrSolid : List (String × String) :=
  [("gradient", "Gradient"), ("solid", "Solid Color")]

def maxWidth : List (String × String) :=
  [("600px", "Small (600px)"), ("800px", "Medium (800px)"), ("1000px", "Large (1000px)"),
    ("100%", "Full Width")]

/-- Values that are their own labels. -/
def plain (values : List String) : List (String × String) := values.map fun v => (v, v)

end Options

/-! ## The fields of each kind -/

open Entry in
/-- The fields of a component itself, its list aside. -/
def Form.entries : Kind → List Entry
  | .hero =>
      [text "Title" "title", longText "Subtitle" "subtitle", color "Text Color" "textColor"] ++
        button "Button Text" ++
        [select "Background Type" "backgroundType" Options.solidOrGradient,
          color "Background Color" "background", color "Gradient Start" "gradientStart",
          color "Gradient End" "gradientEnd",
          select "Text Alignment" "textAlign" Options.alignment,
          select "Min Height" "minHeight"
            [("300px", "Small (300px)"), ("400px", "Medium (400px)"), ("500px", "Large (500px)"),
              ("100vh", "Full Screen")]]
  | .text =>
      [text "Heading" "heading", longText "Content" "content",
        select "Heading Size" "headingSize"
          [("1.5rem", "Small"), ("2rem", "Medium"), ("2.5rem", "Large"), ("3rem", "Extra Large")],
        select "Text Alignment" "textAlign" Options.alignment,
        color "Background Color" "backgroundColor"]
  | .image =>
      [text "Image URL" "src", file "Or Upload Image" "src", text "Alt Text" "alt",
        select "Width" "width" (Options.plain ["50%", "75%", "100%"]),
        select "Max Width" "maxWidth" Options.maxWidth,
        select "Border Radius" "borderRadius"
          [("0", "None"), ("0.5rem", "Small"), ("1rem", "Medium"), ("2rem", "Large"),
            ("50%", "Circle")],
        select "Alignment" "alignment" Options.alignment]
  | .features => [text "Heading" "heading", color "Background Color" "backgroundColor"]
  | .cta =>
      [text "Heading" "heading", text "Subtitle" "subtitle", color "Text Color" "textColor"] ++
        button "Button Text" ++
        [select "Background Type" "backgroundType" Options.solidOrGradient,
          color "Background Color" "backgroundColor", color "Gradient Start" "gradientStart",
          color "Gradient End" "gradientEnd"]
  | .gallery =>
      [select "Columns" "columns"
          [("auto-fit", "Auto"), ("1", "1 Column"), ("2", "2 Columns"), ("3", "3 Columns"),
            ("4", "4 Columns"), ("5", "5 Columns")],
        select "Gap Between Images" "gap"
          [("0.25rem", "Tiny"), ("0.5rem", "Small"), ("1rem", "Medium"), ("1.5rem", "Large"),
            ("2rem", "Extra Large")],
        select "Image Height" "imageHeight"
          (Options.plain ["150px", "200px", "250px", "300px", "400px"] ++ [("auto", "Auto")])]
  | .team => [text "Heading" "heading"]
  | .stats => [color "Background Color" "backgroundColor"]
  | .faq => [text "Heading" "heading"]
  | .contact =>
      [text "Heading" "heading", text "Subtitle" "subtitle",
        email "Email Address (where form sends to)" "email",
        color "Background Color" "backgroundColor"]
  | .newsletter =>
      [text "Heading" "heading", text "Subtitle" "subtitle", text "Button Text" "buttonText",
        select "Background Type" "backgroundType" Options.gradientOrSolid,
        color "Background Color" "backgroundColor", color "Gradient Start" "gradientStart",
        color "Gradient End" "gradientEnd"]
  | .logos => [text "Heading" "heading"]
  | .timeline => [text "Heading" "heading"]
  | .video =>
      [text "Title" "title", text "Video URL" "url",
        select "Aspect Ratio" "aspectRatio"
          [("16/9", "16:9 (Widescreen)"), ("4/3", "4:3 (Standard)"), ("1/1", "1:1 (Square)"),
            ("21/9", "21:9 (Ultrawide)")],
        select "Max Width" "maxWidth" Options.maxWidth]
  | .footer =>
      [text "Company Name" "companyName", text "Tagline" "tagline",
        text "Copyright Text" "copyright"]
  | .navbar =>
      [text "Brand Name" "brand", commaList "Navigation Links (comma-separated)" "links",
        text "CTA Button Text" "ctaText", text "CTA Button URL" "ctaUrl",
        color "Background Color" "backgroundColor", checkbox "Sticky Navigation" "sticky"]
  | .blog => [text "Heading" "heading"]
  | .imagetext =>
      [text "Image URL" "image", file "Or Upload Image" "image", text "Heading" "heading",
        longText "Text Content" "text", color "Text Color" "textColor"] ++
        button "Button Text (optional)" ++
        [select "Image Position" "imagePosition"
            [("left", "Image Left"), ("right", "Image Right")],
          color "Background Color" "backgroundColor"]
  | .callout =>
      [text "Icon (emoji)" "icon", text "Heading" "heading", longText "Text" "text",
        color "Background Color" "backgroundColor", color "Border Color" "borderColor"]
  | .progress => [text "Heading" "heading"]
  | .social => [text "Heading" "heading"]
  | .map =>
      [text "Heading" "heading", text "Address" "address",
        longText "Google Maps Embed URL" "embedUrl"]
  | .testimonials => [text "Heading" "heading"]
  | .pricing => [text "Heading" "heading"]
  | .accordion => [text "Heading" "heading"]
  | .tabs => []
  | .cards => [text "Heading" "heading"]
  | .countdown =>
      [text "Heading" "heading", text "Subtitle" "subtitle", date "Target Date" "targetDate",
        time "Target Time (HH:MM:SS)" "targetTime", color "Background Color" "backgroundColor",
        color "Text Color" "textColor"]
  | .quote =>
      [longText "Quote Text" "quote", text "Author" "author",
        select "Quote Size" "quoteSize"
          [("1.5rem", "Small"), ("2rem", "Medium"), ("2.5rem", "Large")],
        color "Background Color" "backgroundColor"]
  | .steps => [text "Heading" "heading"]
  | .banner =>
      [text "Text" "text", text "Button Text (optional)" "buttonText",
        text "Button URL" "buttonUrl", color "Background Color" "backgroundColor",
        color "Text Color" "textColor", checkbox "Show Dismiss Button" "dismissible"]
  | .metrics => [color "Background Color" "backgroundColor"]
  | .portfolio => [text "Heading" "heading"]
  | .columns =>
      [⟨"Number of Columns", .columnCount,
          .select
            [("1", "1 Column"), ("2", "2 Columns"), ("3", "3 Columns"), ("4", "4 Columns")] true⟩,
        color "Background Color" "backgroundColor"]
  | .separator =>
      [select "Style" "style" [("solid", "Solid"), ("dashed", "Dashed"), ("dotted", "Dotted")],
        select "Width" "width" (Options.plain ["25%", "50%", "75%", "100%"]),
        color "Color" "color",
        select "Thickness" "thickness" (Options.plain ["1px", "2px", "3px", "4px"]),
        select "Spacing (top/bottom)" "spacing"
          [("1rem", "Small"), ("2rem", "Medium"), ("3rem", "Large"), ("4rem", "Extra Large")]]
  | .graph =>
      [text "Heading" "heading",
        select "Chart Type" "chartType"
          [("bar", "Bar Chart"), ("line", "Line Chart"), ("pie", "Pie Chart"),
            ("doughnut", "Doughnut Chart")],
        commaList "Labels (comma-separated)" "labels",
        select "Chart Height" "height"
          [("300px", "Small (300px)"), ("400px", "Medium (400px)"), ("500px", "Large (500px)")],
        checkbox "Show Legend" "showLegend"]

open Entry in
/-- The fields of the item at a position of the list that a kind owns. -/
def Form.itemEntries : Kind → Nat → List Entry
  | .features, _ =>
      [text "Icon (emoji)" "icon", text "Title" "title", longText "Description" "description"]
  | .gallery, _ => [⟨"Image URL", .whole, .text⟩, ⟨"Or Upload New Image", .whole, .file⟩]
  | .team, _ =>
      [text "Name" "name", text "Role" "role", text "Bio" "bio", text "Image URL" "image",
        file "Or Upload Photo" "image"]
  | .stats, _ => [text "Number" "number", text "Label" "label"]
  | .faq, _ => [text "Question" "question", longText "Answer" "answer"]
  | .logos, _ => [⟨"Logo URL", .whole, .text⟩, ⟨"Or Upload", .whole, .file⟩]
  | .timeline, _ =>
      [text "Year" "year", text "Title" "title", text "Description" "description"]
  | .footer, _ => [text "Column Title" "title", commaList "Links (comma-separated)" "links"]
  | .blog, _ =>
      [text "Image URL" "image", text "Title" "title", longText "Excerpt" "excerpt",
        text "Date" "date", text "Read Time" "readTime", text "Link URL" "link"]
  | .progress, _ => [text "Skill Name" "name", number "Percentage (0-100)" "percentage"]
  | .social, _ =>
      [text "Platform Name" "platform", text "Icon (emoji or letter)" "icon", text "URL" "url"]
  | .testimonials, _ =>
      [numericSelect "Rating (1-5)" "rating"
          [("1", "1 Star"), ("2", "2 Stars"), ("3", "3 Stars"), ("4", "4 Stars"),
            ("5", "5 Stars")],
        longText "Review Text" "text", text "Name" "name", text "Role/Company" "role"]
  | .pricing, _ =>
      [text "Plan Name" "name", text "Price" "price",
        commaList "Features (comma-separated)" "features", text "Button Text" "buttonText",
        text "Button URL" "buttonUrl"]
  | .accordion, _ => [text "Title" "title", longText "Content" "content"]
  | .tabs, _ => [text "Tab Title" "title", longText "Content" "content"]
  | .cards, _ =>
      [text "Icon (emoji)" "icon", text "Title" "title", longText "Description" "description"]
  | .steps, _ =>
      [text "Number" "number", text "Title" "title", longText "Description" "description"]
  | .metrics, _ =>
      [text "Icon (emoji)" "icon", text "Number" "number", text "Label" "label"]
  | .portfolio, _ =>
      [text "Image URL" "image", file "Or Upload Image" "image", text "Title" "title",
        text "Category" "category"]
  | .columns, index => [longText ("Column " ++ toString (index + 1)) "content"]
  | .graph, index =>
      [text ("Dataset " ++ toString (index + 1) ++ " Label") "label",
        numberList "Data Values (comma-separated numbers)" "data", color "Color" "color"]
  | _, _ => []

end PageBuilder
