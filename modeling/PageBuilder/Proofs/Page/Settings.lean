import PageBuilder.Page
import PageBuilder.Proofs.Markup.EndTags
import PageBuilder.Proofs.Markup.Style

/-!
# What settings change in a page

Two pages of the same components differ in five places only: the title, and the font and the three
colors in the style sheet (`structure_of_settings`).  What stands in these places cannot end them.
The title has no brackets in it, and the values in the style sheet have none of the characters that
begin or end a rule, so that no theme adds a rule or a declaration to the sheet, or leaves the
sheet.
-/

namespace PageBuilder

open Markup

/-! ## Titles -/

namespace Markup

theorem escapes_textEntity_close : Reader.Escapes '>' textEntity := by
  intro c
  by_cases hclose : c = '>'
  · subst hclose
    exact Or.inl (by decide)
  · exact (Reader.escapes_textEntity c).imp_right fun ⟨hself, hamp, _⟩ => ⟨hself, hamp, hclose⟩

/-- An escaped text has no brackets in it. -/
theorem not_mem_escapeText (s : String) :
    '<' ∉ (escapeText s).toList ∧ '>' ∉ (escapeText s).toList := by
  rw [Reader.toList_escapeText]
  constructor
  · exact fun h => of_decide_eq_true (Reader.escapes_textEntity.ne_of_mem (by decide) _ h) rfl
  · exact fun h => of_decide_eq_true (escapes_textEntity_close.ne_of_mem (by decide) _ h) rfl

/-- An escaped text is read as the text. -/
theorem unescape_escapeText (s : String) :
    Reader.unescape (escapeText s).toList = s.toList := by
  rw [Reader.toList_escapeText, Reader.escapes_textEntity.unescape_eq]

end Markup

/-! ## Style sheets -/

namespace Theme

/-- Whether a character begins or ends a rule, or ends a declaration. -/
def isRuleMark (c : Char) : Bool := c = '\x7b' || c = '\x7d' || c = ';'

theorem isRuleMark_of_mem_styleValue {s : String} {c : Char} (h : c ∈ (styleValue s).toList) :
    isRuleMark c = false := by
  have hmark := isStyleMark_of_mem_styleValue h
  simp_all [isStyleMark, isRuleMark]

@[simp] theorem filter_styleValue (s : String) :
    (styleValue s).toList.filter isRuleMark = [] := by
  rw [List.filter_eq_nil_iff]
  intro c hc
  simp [isRuleMark_of_mem_styleValue hc]

theorem not_mem_styleValue (s : String) : '<' ∉ (styleValue s).toList := by
  intro h
  have hmark := isStyleMark_of_mem_styleValue h
  simp [isStyleMark] at hmark

/-- The parts of a style sheet between the values of a theme. -/
structure Frame where
  beforeFont : String
  beforeText : String
  beforeBackground : String
  beforePrimary : String
  last : String

/-- The style sheet that some values make in a frame. -/
def Frame.fill (frame : Frame) (t : Theme) : String :=
  frame.beforeFont ++ styleValue t.font ++ frame.beforeText ++ styleValue t.textColor ++
    frame.beforeBackground ++ styleValue t.backgroundColor ++ frame.beforePrimary ++
    styleValue t.primaryColor ++ frame.last

theorem append_further {first rest front back : String} (h : rest = front ++ back) :
    first ++ rest = first ++ front ++ back := by
  rw [h, String.append_assoc]

theorem append_here {value rest back : String} (h : rest = back) :
    value ++ rest = "" ++ (value ++ back) := by
  rw [h, String.empty_append]

/-- The style sheets of all themes are made in one frame. -/
theorem exists_frame : ∃ frame : Frame, ∀ t : Theme, t.stylesheet = frame.fill t := by
  apply Exists.intro ⟨_, _, _, _, _⟩
  intro t
  unfold stylesheet
  simp only [Frame.fill, String.append_assoc]
  iterate 4
    repeat with_reducible apply append_further
    with_reducible apply append_here
  rfl

/-- A mark in a style sheet is a mark of its frame. -/
theorem filter_fill (frame : Frame) (t u : Theme) :
    (frame.fill t).toList.filter isRuleMark = (frame.fill u).toList.filter isRuleMark := by
  simp only [Frame.fill, String.toList_append, List.filter_append, filter_styleValue]

theorem not_mem_ofList {c : Char} {cs : List Char} (h : c ∉ cs) :
    c ∉ (String.ofList cs).toList := by
  rwa [String.toList_ofList]

theorem not_mem_stylesheet (t : Theme) : '<' ∉ t.stylesheet.toList := by
  unfold stylesheet
  simp only [String.toList_append, List.mem_append, not_or, not_mem_styleValue, not_false_iff,
    and_true]
  and_intros <;> exact not_mem_ofList (by decide)

end Theme

/-! ## Pages -/

namespace Page

open Theme (isRuleMark)

/-- What stands before the title of a page. -/
def opening : String :=
  "<!DOCTYPE html>\n<html lang=\"en\">\n<head>\n<meta charset=\"UTF-8\">\n" ++
    "<meta name=\"viewport\" content=\"width=device-width, initial-scale=1.0\">\n"

/-- What stands behind the style sheet of a page. -/
def closing (components : List Component) : String :=
  "\n</head>\n<body>\n" ++ body components ++ "\n</body>\n</html>\n"

theorem html_eq (components : List Component) (settings : Settings) :
    html components settings =
      opening ++ "<title>" ++ escapeText settings.title ++ "</title>\n<style>\n" ++
        settings.theme.stylesheet ++ "</style>" ++ closing components := by
  have hguard := guardEndTags_of_not_mem (Theme.not_mem_stylesheet settings.theme)
  have hopen :
      "<meta name=\"viewport\" content=\"width=device-width, initial-scale=1.0\">\n<title>" =
        "<meta name=\"viewport\" content=\"width=device-width, initial-scale=1.0\">\n" ++
          "<title>" := by
    rfl
  have hclose : "</style>\n</head>\n<body>\n" = "</style>" ++ "\n</head>\n<body>\n" := by
    rfl
  unfold html opening closing
  rw [hguard, hopen, hclose]
  simp only [String.append_assoc]

/-- Whatever its settings are, a page of some components is the same text but for the title and for
four places of the style sheet, where the values of the theme stand.  The title is all that stands
between the first `<title>` and the next `<`, and it reads as the title that was set.  The style
sheet is all that stands between `<style>` and the next `<`, and the characters in it that begin or
end rules and declarations are those of the style sheet of a page without settings, in their
order. -/
theorem structure_of_settings (components : List Component) :
    ∃ (before after : String) (frame : Theme.Frame), ¬ "<title>".toList <:+: before.toList ∧
      ∀ settings : Settings, ∃ title sheet : String,
        html components settings =
          before ++ "<title>" ++ title ++ "</title>\n<style>\n" ++ sheet ++ "</style>" ++ after ∧
        sheet =
          frame.beforeFont ++ styleValue settings.theme.font ++
            frame.beforeText ++ styleValue settings.theme.textColor ++
            frame.beforeBackground ++ styleValue settings.theme.backgroundColor ++
            frame.beforePrimary ++ styleValue settings.theme.primaryColor ++ frame.last ∧
        '<' ∉ title.toList ∧ '>' ∉ title.toList ∧
        Reader.unescape title.toList = settings.title.toList ∧
        '<' ∉ sheet.toList ∧
        sheet.toList.filter isRuleMark =
          ({} : Theme).stylesheet.toList.filter isRuleMark := by
  obtain ⟨frame, hframe⟩ := Theme.exists_frame
  refine ⟨opening, closing components, frame, by decide +kernel, fun settings => ?_⟩
  obtain ⟨hless, hmore⟩ := not_mem_escapeText settings.title
  refine ⟨escapeText settings.title, settings.theme.stylesheet, html_eq components settings,
    hframe settings.theme, hless, hmore, unescape_escapeText settings.title,
    Theme.not_mem_stylesheet settings.theme, ?_⟩
  rw [hframe, hframe]
  exact Theme.filter_fill frame settings.theme {}

end Page

end PageBuilder
