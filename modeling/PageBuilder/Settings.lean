import PageBuilder.Json.Shape
import PageBuilder.Markup.Style

/-!
# Settings

The title and the theme of a page.  Every part has a default, so older and partial settings can be
read.  What a theme says is stripped of all that could end its declaration before it goes into the
style sheet.
-/

namespace PageBuilder

/-- The colors and the font of a page. -/
structure Theme where
  primaryColor : String := "#0066cc"
  backgroundColor : String := "#ffffff"
  textColor : String := "#1a1a1a"
  font : String := "system-ui, -apple-system, sans-serif"
deriving DecidableEq, Repr

/-- The title and the theme of a page. -/
structure Settings where
  title : String := "My Website"
  theme : Theme := {}
deriving DecidableEq, Repr

/-! ## Style sheet -/

namespace Theme

open Markup (styleValue)

/-- The style sheet of a page. -/
def stylesheet (t : Theme) : String :=
  "* \x7b margin: 0; padding: 0; box-sizing: border-box; \x7d\n" ++
    "body \x7b font-family: " ++ styleValue t.font ++ "; color: " ++ styleValue t.textColor ++
    "; background: " ++ styleValue t.backgroundColor ++ "; \x7d\n" ++
    ".container \x7b max-width: 1200px; margin: 0 auto; padding: 2rem; \x7d\n" ++
    ".section \x7b padding: 4rem 2rem; \x7d\n" ++
    "h1 \x7b font-size: 3rem; margin-bottom: 1rem; font-weight: 800; \x7d\n" ++
    "h2 \x7b font-size: 2rem; margin-bottom: 1rem; font-weight: 700; \x7d\n" ++
    "h3 \x7b font-size: 1.5rem; margin-bottom: 0.75rem; font-weight: 600; \x7d\n" ++
    "p \x7b font-size: 1.125rem; line-height: 1.6; \x7d\n" ++
    ".button \x7b display: inline-block; padding: 0.75rem 2rem; background: " ++
    styleValue t.primaryColor ++
    "; color: white; text-decoration: none; border-radius: 0.5rem; font-weight: 600; " ++
    "transition: transform 0.2s; \x7d\n" ++
    ".button:hover \x7b transform: translateY(-2px); \x7d\n" ++
    "img \x7b max-width: 100%; height: auto; \x7d\n" ++
    "input, textarea \x7b font-family: inherit; \x7d\n" ++
    "@media (max-width: 768px) \x7b\n" ++
    "  .container \x7b padding: 1rem; \x7d\n" ++
    "  .section \x7b padding: 2rem 1rem; \x7d\n" ++
    "  h1 \x7b font-size: 2rem; \x7d\n" ++
    "  h2 \x7b font-size: 1.5rem; \x7d\n" ++
    "\x7d\n"

/-! ## Stored form -/

/-- How a theme is stored. -/
def toJson (t : Theme) : Json :=
  .obj [
    ("primaryColor", .str t.primaryColor), ("backgroundColor", .str t.backgroundColor),
    ("textColor", .str t.textColor), ("font", .str t.font)]

open Json Shape in
/-- How a theme is read. -/
def shape : Shape Theme := fun depth d => do
  let default : Theme := {}
  let found ←
    record
      [optional "primaryColor" text, optional "backgroundColor" text, optional "textColor" text,
        optional "font" text]
      depth d
  return {
    primaryColor := ← found.getD "primaryColor" text default.primaryColor
    backgroundColor := ← found.getD "backgroundColor" text default.backgroundColor
    textColor := ← found.getD "textColor" text default.textColor
    font := ← found.getD "font" text default.font }

end Theme

namespace Settings

/-- How settings are stored. -/
def toJson (s : Settings) : Json := .obj [("title", .str s.title), ("theme", s.theme.toJson)]

open Json Shape in
/-- How settings are read. -/
def shape : Shape Settings := fun depth d => do
  let default : Settings := {}
  let found ← record [optional "title" text, optional "theme" Theme.shape] depth d
  return {
    title := ← found.getD "title" text default.title
    theme := ← found.getD "theme" Theme.shape default.theme }

end Settings

end PageBuilder
