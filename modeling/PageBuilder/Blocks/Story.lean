import PageBuilder.Blocks.Parts

/-!
# Stories

Blocks that unfold a list of items one below the other: questions, accordions, timelines and tabs.
-/

namespace PageBuilder.Blocks

open Markup

def question (item : Object) : Node :=
  box "background: #f8fafc; padding: 1.5rem; border-radius: 0.5rem; margin-bottom: 1rem;"
    [leaf "h3" "font-size: 1.125rem; font-weight: 700; margin-bottom: 0.5rem;"
      (item.text "question"),
      muted (item.text "answer")]

/-- Questions and answers. -/
def faq (d : Object) : Node :=
  sectionBox none
    [container "800px" (heading (d.text "heading") "3rem" :: (d.records "faqs").map question)]

def fold (item : Object) : Node :=
  box "background: white; border: 1px solid #e2e8f0; border-radius: 0.5rem; margin-bottom: 1rem; overflow: hidden;"
    [box "padding: 1.25rem; font-weight: 600; cursor: pointer; display: flex; justify-content: space-between; align-items: center;"
      [el "span" [] [.text (item.text "title")], leaf "span" "font-size: 1.5rem;" "+"],
      leaf "div" "padding: 0 1.25rem 1.25rem; color: #64748b; line-height: 1.6;"
        (item.text "content")]

/-- Items that fold open. -/
def accordion (d : Object) : Node :=
  sectionBox none
    [container "800px" (heading (d.text "heading") "3rem" :: (d.records "items").map fold)]

def milestone (item : Object) : Node :=
  box "display: flex; gap: 2rem; margin-bottom: 2rem;"
    [badge (item.text "year") "1.25rem" "0",
      box "flex: 1; padding-top: 0.5rem;"
        [leaf "h3" "font-size: 1.25rem; margin-bottom: 0.5rem; font-weight: 700;"
          (item.text "title"),
          muted (item.text "description")]]

/-- Events in the order of time. -/
def timeline (d : Object) : Node :=
  sectionBox none
    [container "800px" (heading (d.text "heading") "3rem" :: (d.records "events").map milestone)]

/-- The button of a tab; the first tab is the active one. -/
def tabButton (index : Nat) (item : Object) : Node :=
  let active := index == 0
  el "button"
    [style [
      .raw "padding: 1rem 0; border: none; background: none; font-weight: 600",
      .set "color" (if active then accentColor else mutedColor),
      .set "border-bottom" ("3px solid " ++ if active then accentColor else "transparent"),
      .raw "cursor: pointer"]]
    [.text (item.text "title")]

/-- Tabs, with the content of the first one. -/
def tabs (d : Object) : Node :=
  let items := d.records "tabs"
  let content := (items.head?.map (·.text "content")).getD ""
  sectionBox none
    [container "800px"
      [box "border-bottom: 2px solid #e2e8f0; margin-bottom: 2rem; display: flex; gap: 2rem;"
        (items.mapIdx tabButton),
        leaf "div" "padding: 2rem; background: #f8fafc; border-radius: 0.5rem;" content]]

end PageBuilder.Blocks
