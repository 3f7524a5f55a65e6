import PageBuilder.Form.Layout

/-!
# The form of a component

Fills the layout of a kind with the data of a component.  The columns of a columns component are
no list that grows and shrinks by itself: their number is set by a field of its own, and their
fields follow those of the component.
-/

namespace PageBuilder

/-! ## Scopes -/

/-- What entries are filled from: a whole component or an item of one of its lists. -/
inductive Scope where
  | component (data : Object)
  | item (list : String) (index : Nat) (value : Json)

namespace Scope

/-- The path of a target. -/
def path : Scope → Target → String
  | .component _, .field key => key
  | .item list index _, .field key => FieldPath.itemField list index key
  | .item list index _, _ => FieldPath.item list index
  | .component _, _ => ""

/-- The fields of the object. -/
def fields : Scope → Object
  | .component data => data
  | .item _ _ value => value.entries

/-- The value of a target, `null` if there is none. -/
def value : Scope → Target → Json
  | s, .field key => (s.fields.get? key).getD .null
  | .item _ _ value, .whole => value
  | .component data, .whole => .obj data
  | s, .columnCount => .str (s.fields.textOr "columnCount" "2")

end Scope

/-! ## Filling a layout -/

/-- What a control shows of a stored value. -/
def Control.shown : Control → Json → Json
  | .checkbox, v => .bool v.flag
  | .commaList _, v => .str (CommaList.join v.items)
  | _, v => v

/-- What a target is written through. -/
def Scope.binding (s : Scope) : Target → Binding
  | .columnCount => .columnCount
  | target => .path (s.path target)

/-- The field of an entry. -/
def Entry.field (s : Scope) (e : Entry) : Field :=
  { label := e.label
    binding := s.binding e.target
    control := e.control
    value := e.control.shown (s.value e.target) }

/-- The fields of the item of a list at a position. -/
def Kind.itemFields (k : Kind) (list : String) (index : Nat) (value : Json) : List Field :=
  (Form.itemEntries k index).map (Entry.field (.item list index value))

/-- The section of a list. -/
def Kind.formSection (k : Kind) (data : Object) (spec : ListSpec) : Section :=
  let items := data.list spec.name
  { spec
    items := items.mapIdx fun index value =>
      { index
        fields := k.itemFields spec.name index value
        removable := minItems < items.length } }

/-- The fields of the columns of a columns component, none for other kinds. -/
def Kind.columnFields (k : Kind) (data : Object) : List Field :=
  if k = .columns then
    ((data.list "columns").mapIdx fun index value => k.itemFields "columns" index value).flatten
  else []

namespace Form

/-- The form of a component of kind `k`. -/
def of (k : Kind) (id : Nat) (data : Object) : Form :=
  { id
    kind := k
    parts :=
      ((Form.entries k).map fun e => .field (e.field (.component data))) ++
        (k.columnFields data).map .field ++
        k.lists.map fun spec => .list (k.formSection data spec) }

/-- The form of a component; none if its kind is not known. -/
def of? (c : Component) : Option Form := c.kind?.map fun k => of k c.id c.data

end Form

end PageBuilder
