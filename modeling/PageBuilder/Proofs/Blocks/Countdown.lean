import PageBuilder.Blocks.Countdown
import PageBuilder.Proofs.Blocks.Attributes
import PageBuilder.Proofs.Markup.ScriptLiteral

/-!
# What a countdown puts into its script

The script of a countdown has two string literals in it, each between the parentheses of a call, and
all else in it is the same for every component (`exists_countdownScript`).  As a literal in a script
reads back and ends where it should (`Markup.scanToken_scriptLiteral`), both literals read back as
what was put into them and end before the closing parenthesis (`script_of_countdown`).
-/

namespace PageBuilder

open Json (scanToken stringText)

namespace Blocks

open Markup

theorem exists_scriptHead : ∃ front, scriptHead = front ++ "new Date(" := by
  have hline :
      "    const targetDate = new Date(" = "    const targetDate = " ++ "new Date(" := by rfl
  unfold scriptHead
  exact ⟨_, by rw [hline, ← String.append_assoc]⟩

theorem exists_scriptMiddle :
    ∃ middle, scriptMiddle = ")" ++ middle ++ "getElementById(" := by
  have hstart : ").getTime();\n" = ")" ++ ".getTime();\n" := by rfl
  have hend : "    const container = document.getElementById(" =
      "    const container = document." ++ "getElementById(" := by rfl
  unfold scriptMiddle
  refine ⟨".getTime();\n" ++ "    const container = document.", ?_⟩
  rw [hstart, hend, ← String.append_assoc, ← String.append_assoc]

theorem exists_append_of_append {first s : String} (h : ∃ back, s = first ++ back)
    (rest : String) : ∃ back, s ++ rest = first ++ back := by
  obtain ⟨back, rfl⟩ := h
  exact ⟨back ++ rest, String.append_assoc⟩

theorem exists_scriptTail : ∃ back, scriptTail = ")" ++ back := by
  unfold scriptTail
  iterate 17 refine exists_append_of_append ?_ _
  exact ⟨";\n", by rfl⟩

/-- A script from the closing parenthesis after the target on. -/
def scriptRest (middle back name : String) : String :=
  ")" ++ (middle ++ ("getElementById(" ++ (stringText name ++ (")" ++ back))))

/-- A countdown's script is the same for all components but for two literals. -/
theorem exists_countdownScript :
    ∃ front middle back : String, ∀ target name : String,
      countdownScript target name =
        front ++ ("new Date(" ++ (stringText target ++ scriptRest middle back name)) := by
  obtain ⟨front, hhead⟩ := exists_scriptHead
  obtain ⟨middle, hmiddle⟩ := exists_scriptMiddle
  obtain ⟨back, htail⟩ := exists_scriptTail
  refine ⟨front, middle, back, fun target name => ?_⟩
  simp only [countdownScript, hhead, hmiddle, htail, String.append_assoc, scriptRest]

theorem head?_close (rest : String) : (")" ++ rest).toList.head? ≠ some '/' := by simp

theorem guardEndTags_close (rest : String) :
    guardEndTags (")" ++ rest) = ")" ++ guardEndTags rest :=
  guardEndTags_append_of_not_mem (by decide) rest

/-- A call in a script, with a string literal as its argument. -/
theorem guardEndTags_call {call : String} (hcall : '<' ∉ call.toList)
    (hslash : ∀ rest : String, (call ++ rest).toList.head? ≠ some '/') (front s rest : String) :
    guardEndTags (front ++ (call ++ (stringText s ++ (")" ++ rest)))) =
      guardEndTags front ++ (call ++ (scriptLiteral s ++ guardEndTags (")" ++ rest))) := by
  rw [guardEndTags_append (hslash _), guardEndTags_append_of_not_mem hcall,
    guardEndTags_stringText_append s (head?_close rest)]

theorem guardEndTags_scriptRest (middle back name : String) :
    guardEndTags (scriptRest middle back name) =
      ")" ++ guardEndTags middle ++ "getElementById(" ++ scriptLiteral name ++
        (")" ++ guardEndTags back) := by
  rw [scriptRest, guardEndTags_close, guardEndTags_call (by decide) (by simp), guardEndTags_close]
  simp only [String.append_assoc]

theorem guardEndTags_script (front middle back target name : String) :
    guardEndTags (front ++ ("new Date(" ++ (stringText target ++ scriptRest middle back name))) =
      guardEndTags front ++ "new Date(" ++ scriptLiteral target ++
        guardEndTags (scriptRest middle back name) := by
  rw [scriptRest, guardEndTags_call (by decide) (by simp)]
  simp only [String.append_assoc]

/-- The element that has the identifier is the grid of the units. -/
theorem exists_grid (id : Nat) (d : Object) :
    ∃ grid ∈ (countdown id d).elements, grid.attribute? "id" = some (countdownId id) ∧
      ∃ style, grid.attribute? "style" = some style ∧ "display: grid;".toList <+: style.toList := by
  have hgrid : ∀ (body : List Attribute) (title subtitle : Node) (grid : List Attribute)
      (units : List Node) (script : Node), el "div" grid units ∈
        (Node.fragment [el "div" body [container "800px" [title, subtitle, el "div" grid units]],
          script]).elements := by
    intro body title subtitle grid units script
    simp [el, container, Node.elements, Node.elementsAll]
  exact ⟨_, hgrid _ _ _ _ _ _, rfl, _, rfl, by decide +kernel⟩

/-- Whatever a component holds, the script of its countdown is the same but for two string literals.
In the script as it stands on the page the first one, after `new Date(`, reads back as the date and
the time with a `T` between them, and ends right before the closing parenthesis.  The second one,
after `getElementById(`, reads back as the only identifier in the block, which is that of its grid.
Nowhere in the script stands `</`. -/
theorem script_of_countdown :
    ∃ front middle back : String, ∀ (id : Nat) (d : Object),
      ∃ (box : Node) (script date place afterDate afterPlace name : String),
        countdown id d = .fragment [box, .script script] ∧
        (countdown id d).html = box.html ++ "<script>" ++ guardEndTags script ++ "</script>" ∧
        guardEndTags script = front ++ "new Date(" ++ date ++ afterDate ∧
        afterDate = ")" ++ middle ++ "getElementById(" ++ place ++ afterPlace ∧
        afterPlace = ")" ++ back ∧
        scanToken (date ++ afterDate).toList =
          (.text (some (d.text "targetDate" ++ "T" ++ d.text "targetTime")), afterDate.toList) ∧
        scanToken (place ++ afterPlace).toList = (.text (some name), afterPlace.toList) ∧
        (countdown id d).identifiers = [name] ∧
        (∃ grid ∈ (countdown id d).elements, grid.attribute? "id" = some name ∧
          ∃ style, grid.attribute? "style" = some style ∧
            "display: grid;".toList <+: style.toList) ∧
        ¬ "</".toList <:+: (guardEndTags script).toList := by
  obtain ⟨front, middle, back, hscript⟩ := exists_countdownScript
  refine ⟨guardEndTags front, guardEndTags middle, guardEndTags back, fun id d => ?_⟩
  have hwritten := guardEndTags_script front middle back (countdownTarget d) (countdownId id)
  rw [← hscript] at hwritten
  have hdate := scanToken_scriptLiteral (countdownTarget d)
    (show (scriptRest middle back (countdownId id)).toList.head? ≠ some '/' from head?_close _)
  have hplace := scanToken_scriptLiteral (countdownId id) (head?_close back)
  rw [guardEndTags_close] at hplace
  refine ⟨_, countdownScript (countdownTarget d) (countdownId id),
    scriptLiteral (countdownTarget d), scriptLiteral (countdownId id), _, _, countdownId id, rfl,
    ?_, hwritten, guardEndTags_scriptRest middle back (countdownId id), rfl, hdate, hplace,
    identifiers_countdown id d, exists_grid id d, not_infix_guardEndTags _⟩
  rw [countdown, Node.html, Node.htmlAll, Node.htmlAll, Node.htmlAll, Node.html]
  simp only [String.append_assoc, String.append_empty]

end Blocks

end PageBuilder
