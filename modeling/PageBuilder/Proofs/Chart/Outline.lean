import PageBuilder.Chart.Outline
import PageBuilder.Proofs.Json.Tokens
import PageBuilder.Proofs.Text.Pieces

/-!
# Outlines word by word

The text of an outline is made of words with a blank between them: the letter of each step and its
numbers, in order (`splitAt_outlineText`).  So an outline can be followed in its text, for no number
has a blank in it.
-/

namespace PageBuilder

/-! ## Texts without blanks -/

namespace Decimal

theorem blank_not_mem_toDigits (n : Nat) : ' ' ∉ Nat.toDigits 10 n := by
  intro h
  have hdigit := Json.isDigit_of_mem_toDigits h
  simp at hdigit

theorem blank_not_mem_zeros (n : Nat) : ' ' ∉ (zeros n).toList := by
  rw [zeros, String.toList_ofList]
  simp

theorem blank_not_mem_positional (d : Decimal) : ' ' ∉ (d.positional "").toList := by
  have hdigits := blank_not_mem_toDigits d.digits
  unfold positional
  split
  · simp [hdigits, blank_not_mem_zeros]
  · dsimp only
    split
    · have htake := fun n => mt (List.mem_of_mem_take (i := n)) hdigits
      have hdrop := fun n => mt (List.mem_of_mem_drop (i := n)) hdigits
      simp [htake, hdrop]
    · simp [hdigits, blank_not_mem_zeros]

theorem blank_not_mem_plain (x : Float) : ' ' ∉ (plain x).toList := by
  have hsign : ' ' ∉ (signText x).toList := by
    unfold signText
    split <;> decide
  unfold plain
  split
  · decide
  · split <;> simp [hsign, blank_not_mem_positional]

end Decimal

theorem blank_not_mem_numberText (x : Float) : ' ' ∉ (numberText x).toList := by
  unfold numberText
  split
  · decide
  · exact Decimal.blank_not_mem_plain x

namespace Text

theorem splitAt_of_not_mem {mark : Char} {s : String} (h : mark ∉ s.toList) :
    splitAt mark s = [s] := by
  have hplain : ∀ c ∈ s.toList, (c == mark) = false := fun c hc =>
    beq_eq_false_iff_ne.mpr fun he => h (he ▸ hc)
  rw [splitAt, splitChars_of_forall hplain, List.map_singleton, String.ofList_toList]

theorem splitAt_append (mark : Char) (front back : String) :
    splitAt mark (front ++ String.singleton mark ++ back) =
      splitAt mark front ++ splitAt mark back := by
  have hchars : (front ++ String.singleton mark ++ back).toList =
      front.toList ++ mark :: back.toList := by simp
  have hpieces : splitChars (· == mark) (front.toList ++ mark :: back.toList) =
      splitChars (· == mark) front.toList ++ splitChars (· == mark) back.toList :=
    splitChars_append_cons (by simp) _ _
  rw [splitAt, hchars, hpieces, List.map_append, splitAt, splitAt]

end Text

/-! ## Words -/

namespace Chart

open Text (splitAt splitAt_of_not_mem)

theorem blank_not_mem_coordinateText (x : Float) : ' ' ∉ (coordinateText x).toList :=
  blank_not_mem_numberText _

theorem splitAt_blank (front back : String) :
    splitAt ' ' (front ++ " " ++ back) = splitAt ' ' front ++ splitAt ' ' back :=
  Text.splitAt_append ' ' front back

@[simp] theorem splitAt_coordinateText (x : Float) :
    splitAt ' ' (coordinateText x) = [coordinateText x] :=
  splitAt_of_not_mem (blank_not_mem_coordinateText x)

@[simp] theorem splitAt_flagText (b : Bool) : splitAt ' ' (flagText b) = [flagText b] := by
  cases b <;> exact splitAt_of_not_mem (by decide)

/-- The words of a step: its letter and its numbers. -/
def Stroke.words : Stroke Float → List String
  | .moveTo x y => ["M", coordinateText x, coordinateText y]
  | .lineTo x y => ["L", coordinateText x, coordinateText y]
  | .arcTo radius large clockwise x y =>
      ["A", coordinateText radius, coordinateText radius, "0", flagText large, flagText clockwise,
        coordinateText x, coordinateText y]
  | .close => ["Z"]

theorem splitAt_letter {letter : String} (h : ' ' ∉ letter.toList) (x : Float) :
    splitAt ' ' (letter ++ " " ++ coordinateText x) = [letter, coordinateText x] := by
  rw [splitAt_blank, splitAt_of_not_mem h, splitAt_coordinateText, List.singleton_append]

theorem Stroke.splitAt_text (s : Stroke Float) : splitAt ' ' s.text = s.words := by
  cases s with
  | moveTo x y =>
      have hletter : splitAt ' ' ("M " ++ coordinateText x) = ["M", coordinateText x] :=
        splitAt_letter (by decide : ' ' ∉ "M".toList) x
      simp [text, words, hletter, splitAt_blank]
  | lineTo x y =>
      have hletter : splitAt ' ' ("L " ++ coordinateText x) = ["L", coordinateText x] :=
        splitAt_letter (by decide : ' ' ∉ "L".toList) x
      simp [text, words, hletter, splitAt_blank]
  | arcTo radius large clockwise x y =>
      have hletter : splitAt ' ' ("A " ++ coordinateText radius) = ["A", coordinateText radius] :=
        splitAt_letter (by decide : ' ' ∉ "A".toList) radius
      have hzero : ∀ front, front ++ " 0 " = front ++ " " ++ "0" ++ " " := fun front => by
        rw [String.append_assoc, String.append_assoc]
        rfl
      have hmiddle : splitAt ' ' "0" = ["0"] := splitAt_of_not_mem (by decide)
      simp [text, words, hletter, hzero, hmiddle, splitAt_blank]
  | close => exact splitAt_of_not_mem (by decide)

/-- The words of an outline are those of its steps. -/
theorem splitAt_outlineText {strokes : List (Stroke Float)} (h : strokes ≠ []) :
    splitAt ' ' (outlineText strokes) = strokes.flatMap Stroke.words := by
  induction strokes with
  | nil => exact absurd rfl h
  | cons s rest ih =>
      cases rest with
      | nil => simp [outlineText, Stroke.splitAt_text]
      | cons t rest =>
          have hrest := ih (List.cons_ne_nil t rest)
          rw [outlineText, List.map_cons, List.map_cons, String.intercalate_cons_cons,
            splitAt_blank, Stroke.splitAt_text, List.flatMap_cons, ← hrest]
          rfl

end Chart

end PageBuilder
