import PageBuilder.Form.Basic

/-!
# Written forms

How a form is sent to an editor that shows it.
-/

namespace PageBuilder

/-- The name of a control. -/
def Control.name : Control → String
  | .text => "text"
  | .longText => "long_text"
  | .email => "email"
  | .color => "color"
  | .select _ _ => "select"
  | .number => "number"
  | .checkbox => "checkbox"
  | .file => "file"
  | .date => "date"
  | .time => "time"
  | .commaList _ => "comma_list"

/-- How a binding is written. -/
def Binding.toJson : Binding → Json
  | .path text => .obj [("bind", .str "path"), ("path", .str text)]
  | .columnCount => .obj [("bind", .str "column_count")]

namespace Field

/-- How an option of a choice is written. -/
def optionToJson (f : Field) (option : String × String) : Json :=
  .obj [
    ("value", .str option.1), ("label", .str option.2), ("selected", .bool (f.isSelected option.1))]

/-- What is written of a control beside its name. -/
def controlMembers (f : Field) : List (String × Json) :=
  match f.control with
  | .select options numeric =>
      [("options", .arr (options.map f.optionToJson)), ("numeric", .bool numeric)]
  | .commaList numeric => [("numeric", .bool numeric)]
  | _ => []

/-- The members a field is written with. -/
def members (f : Field) : List (String × Json) :=
  [("label", .str f.label), ("binding", f.binding.toJson),
    ("kind", .obj (("type", .str f.control.name) :: f.controlMembers)), ("value", f.value)]

/-- How a field is written. -/
def toJson (f : Field) : Json := .obj f.members

end Field

namespace Section

/-- How an item of a section is written. -/
def itemToJson (s : Section) (item : FormItem) : Json :=
  .obj [
    ("index", .nat item.index), ("fields", .arr (item.fields.map Field.toJson)),
    ("remove", ((s.remove? item).map Edit.toJson).getD .null)]

/-- The members a section is written with. -/
def members (s : Section) : List (String × Json) :=
  [("list", .str s.spec.name), ("title", .str s.spec.title), ("item_label", .str s.spec.itemLabel),
    ("items", .arr (s.items.map s.itemToJson)), ("add", s.add.toJson)]

end Section

/-- How a part of a form is written. -/
def FormPart.toJson : FormPart → Json
  | .field f => .obj (("item", .str "field") :: f.members)
  | .list s => .obj (("item", .str "list") :: s.members)

namespace Form

/-- How a form is written. -/
def toJson (form : Form) : Json :=
  .obj [
    ("id", .nat form.id), ("type", .str form.kind.name), ("label", .str form.kind.label),
    ("items", .arr (form.parts.map FormPart.toJson))]

end Form

end PageBuilder
