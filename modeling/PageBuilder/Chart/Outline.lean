import PageBuilder.Fields

/-!
# Outlines

Lines and arcs that a drawing is made of, and the text they are written as.  Coordinates are
rounded to three decimals, halves away from zero.
-/

namespace PageBuilder.Chart

/-- One step of an outline. -/
inductive Stroke (α : Type) where
  | moveTo (x y : α)
  | lineTo (x y : α)
  /-- An arc of a circle to a point: the longer one if `large`, clockwise if `clockwise`. -/
  | arcTo (radius : α) (large clockwise : Bool) (x y : α)
  | close
deriving DecidableEq

/-- A coordinate, rounded to three decimals. -/
def coordinateText (x : Float) : String := numberText ((x * 1000).round / 1000)

/-- A flag of an arc. -/
def flagText (b : Bool) : String := if b then "1" else "0"

/-- The text of a step. -/
def Stroke.text : Stroke Float → String
  | .moveTo x y => "M " ++ coordinateText x ++ " " ++ coordinateText y
  | .lineTo x y => "L " ++ coordinateText x ++ " " ++ coordinateText y
  | .arcTo radius large clockwise x y =>
      "A " ++ coordinateText radius ++ " " ++ coordinateText radius ++ " 0 " ++ flagText large ++
        " " ++ flagText clockwise ++ " " ++ coordinateText x ++ " " ++ coordinateText y
  | .close => "Z"

/-- The text of an outline. -/
def outlineText (strokes : List (Stroke Float)) : String :=
  " ".intercalate (strokes.map Stroke.text)

end PageBuilder.Chart
