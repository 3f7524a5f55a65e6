import PageBuilder.Text.Blank

/-!
# Inline styles

The declarations of a `style` attribute, in order.  A value that comes from a user is stripped of
every character that could end its declaration, so a style reads back as the declarations it was
made of.
-/

namespace PageBuilder.Markup

/-- Whether a character could end a declaration or the style it stands in. -/
def isStyleMark (c : Char) : Bool :=
  c = ';' || c = '\x7b' || c = '\x7d' || c = '<' || c = '>' || c = '"' || c = '\\'

/-- A text as the value of a declaration. -/
def styleValue (s : String) : String :=
  String.ofList (Text.trimChars (s.toList.filter (!isStyleMark ·)))

/-- Declarations, each a property and its value. -/
structure Style where
  declarations : List (String × String)
deriving DecidableEq, Repr

namespace Style

/-- The declaration a text writes: a property that is not empty, a colon and a value. -/
def declaration? (cs : List Char) : Option (String × String) :=
  match cs.dropWhile (· ≠ ':') with
  | _ :: value =>
      let property := Text.trimChars (cs.takeWhile (· ≠ ':'))
      if property.isEmpty then none
      else some (String.ofList property, String.ofList (Text.trimChars value))
  | [] => none

/-- The style a text writes, with a semicolon after each declaration. -/
def parse (s : String) : Style :=
  ⟨(Text.splitChars (· = ';') s.toList).filterMap declaration?⟩

/-- The text of a style. -/
def text (s : Style) : String :=
  " ".intercalate (s.declarations.map fun (property, value) => property ++ ": " ++ value ++ ";")

end Style

/-! ## Building styles -/

/-- What adds declarations to a style. -/
inductive Rule where
  /-- A property with a value that may come from a user. -/
  | set (property value : String)
  /-- The same, if a condition holds. -/
  | setIf (condition : Bool) (property value : String)
  /-- The declarations that a text writes. -/
  | raw (text : String)

/-- The declarations that a rule adds. -/
def Rule.declarations : Rule → List (String × String)
  | .set property value => [(property, styleValue value)]
  | .setIf condition property value =>
      if condition then [(property, styleValue value)] else []
  | .raw text => (Style.parse text).declarations

/-- The style that some rules build. -/
def Style.of (rules : List Rule) : Style := ⟨rules.flatMap Rule.declarations⟩

example :
    (Style.of [.raw "color: red; x", .set "width" "1; \x7d"]).text = "color: red; width: 1;" := by
  decide +kernel

end PageBuilder.Markup
