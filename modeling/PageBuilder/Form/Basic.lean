import PageBuilder.Component
import PageBuilder.Catalog.Lists
import PageBuilder.Form.Edit
import PageBuilder.Path.Basic

/-!
# Forms

A form shows the data of one component and says how it may be changed.  It lists fields in order,
then one section for each list the component owns.  Every field holds the value as it is stored
now, so a form that is made again after an edit shows the edit.  Forms change nothing themselves:
what a user types becomes an edit (`Field.edit?`).
-/

namespace PageBuilder

/-! ## Fields -/

/-- How a value is entered. -/
inductive Control where
  | text
  | longText
  | email
  | color
  /-- A choice between values, each with a label.  A numeric choice is stored as a number. -/
  | select (options : List (String × String)) (numeric : Bool)
  | number
  | checkbox
  /-- A file to be uploaded; where it ends up is the value. -/
  | file
  | date
  | time
  | commaList (numeric : Bool)
deriving DecidableEq, Repr

/-- What a field writes to. -/
inductive Binding where
  /-- A place in the data, by its field path. -/
  | path (text : String)
  /-- The number of columns, which also resizes the columns. -/
  | columnCount
deriving DecidableEq, Repr

/-- One input of a form. -/
structure Field where
  label : String
  binding : Binding
  control : Control
  /-- The stored value; a comma list holds its joined text. -/
  value : Json

namespace Field

/-- Whether an option of a choice is the stored one. -/
def isSelected (f : Field) (option : String) : Bool := option == f.value.text

/-- The texts that tick a checkbox. -/
def ticks : List String := ["true", "on", "1"]

/-- The edit that a text entered into a field asks for.  There is none for a file, and none for a
number of columns that is no number. -/
def edit? (f : Field) (input : String) : Option Edit :=
  match f.binding, f.control with
  | .columnCount, _ => (Decimal.word? (Text.trimChars input.toList)).map .setColumnCount
  | .path _, .file => none
  | .path path, .commaList numeric => some (.setCommaList path input numeric)
  | .path path, .checkbox => some (.set path (.bool (ticks.contains (Text.trim input))))
  | .path path, .number
  | .path path, .select _ true =>
      some (.set path (CommaList.storedNumber (CommaList.numberOrZero input)))
  | .path path, _ => some (.set path (.str input))

end Field

/-! ## Sections -/

/-- The fields of one item of a list. -/
structure FormItem where
  index : Nat
  fields : List Field
  /-- Whether the item may be removed. -/
  removable : Bool

/-- A list with the fields of its items. -/
structure Section where
  spec : ListSpec
  items : List FormItem

namespace Section

/-- The edit that appends a new item. -/
def add (s : Section) : Edit := .append s.spec.name

/-- The edit that removes an item, if it may be removed. -/
def remove? (s : Section) (item : FormItem) : Option Edit :=
  if item.removable then some (.remove s.spec.name item.index) else none

end Section

/-! ## Forms -/

/-- A part of a form. -/
inductive FormPart where
  | field (field : Field)
  | list (list : Section)

/-- The form of a component. -/
structure Form where
  id : Nat
  kind : Kind
  parts : List FormPart

/-- The fields of a part. -/
def FormPart.fields : FormPart → List Field
  | .field f => [f]
  | .list s => s.items.flatMap (·.fields)

namespace Form

/-- Every field of a form in order, those inside sections included. -/
def fields (form : Form) : List Field := form.parts.flatMap (·.fields)

/-- The sections of a form. -/
def sections (form : Form) : List Section :=
  form.parts.filterMap fun
    | .list s => some s
    | .field _ => none

/-- The section of a list. -/
def section? (form : Form) (list : String) : Option Section :=
  form.sections.find? (·.spec.name == list)

end Form

end PageBuilder
