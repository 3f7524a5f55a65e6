/-!
# Palette

The colors that pie slices and new data series take by their position.
-/

namespace PageBuilder.Chart

/-- The colors, in the order they are given out. -/
def palette : List String :=
  ["#0066cc", "#764ba2", "#f093fb", "#4facfe", "#fa709a", "#43e97b", "#38f9d7"]

/-- The color at a position; after the last color comes the first. -/
def paletteColor (index : Nat) : String := palette.getD (index % palette.length) ""

example : paletteColor 8 = "#764ba2" := by decide

end PageBuilder.Chart
