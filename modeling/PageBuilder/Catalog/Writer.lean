import PageBuilder.Catalog.Template
import PageBuilder.Catalog.Lists

/-!
# The catalog as JSON

What an editor is told of the kinds: the summary of each kind for a palette, and the template a new
component starts from.
-/

namespace PageBuilder.Kind

/-- What a palette shows of a kind. -/
def summary (k : Kind) : Json :=
  .obj [
    ("type", .str k.name), ("label", .str k.label),
    ("lists", .arr (k.lists.map fun spec => .str spec.name))]

/-- The palette. -/
def palette : Json := .arr (all.map summary)

/-- The template of a kind. -/
def templateJson (k : Kind) : Json := .obj [("type", .str k.name), ("data", .obj k.template)]

end PageBuilder.Kind
