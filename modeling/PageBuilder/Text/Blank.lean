/-!
# Blank characters

The characters with the Unicode property White_Space (Unicode 15), and trimming a text of them on
both sides.  A trimmed text neither begins nor ends with a blank, and trimming takes away nothing
else.
-/

namespace PageBuilder.Text

/-- The code points with the property White_Space, as closed ranges in increasing order. -/
def blankRanges : List (Nat × Nat) :=
  [(0x9, 0xD), (0x20, 0x20), (0x85, 0x85), (0xA0, 0xA0), (0x1680, 0x1680), (0x2000, 0x200A),
   (0x2028, 0x2029), (0x202F, 0x202F), (0x205F, 0x205F), (0x3000, 0x3000)]

/-- Whether a character has the property White_Space. -/
def isBlank (c : Char) : Bool :=
  blankRanges.any fun (low, high) => low ≤ c.toNat && c.toNat ≤ high

/-- Drops the blanks at the end of a text. -/
def trimEndChars (cs : List Char) : List Char := (cs.reverse.dropWhile isBlank).reverse

/-- Drops the blanks at both ends of a text. -/
def trimChars (cs : List Char) : List Char := trimEndChars (cs.dropWhile isBlank)

/-- The text without the blanks at its two ends. -/
def trim (s : String) : String := String.ofList (trimChars s.toList)

/-! ## Pieces of a text -/

/-- The pieces of a text between the characters that satisfy `cut`; always at least one. -/
def splitChars (cut : Char → Bool) : List Char → List (List Char)
  | [] => [[]]
  | c :: cs =>
      if cut c then [] :: splitChars cut cs
      else
        match splitChars cut cs with
        | [] => [[c]]
        | piece :: rest => (c :: piece) :: rest

/-- The pieces of a text between occurrences of `mark`. -/
def splitAt (mark : Char) (s : String) : List String :=
  (splitChars (· == mark) s.toList).map String.ofList

example : trim " \u00a0a b\u3000\n" = "a b" := by decide +kernel

example : splitAt ',' "a,,b" = ["a", "", "b"] := by decide +kernel

end PageBuilder.Text
