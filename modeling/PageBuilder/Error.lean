/-!
# Errors

Everything that can go wrong while a page is edited, stored or served, as causes.  The wording of
each cause is given by `Error.message` and nowhere else.
-/

namespace PageBuilder

/-- Why a text is no field path. -/
inductive PathReason where
  | leadingIndex
  | unclosedBracket
  | badIndex
  | emptyName
  | missingSeparator
  | badCharacter
  | incomplete
deriving DecidableEq, Repr

/-- Why a field path cannot be followed; `path` is its text. -/
inductive PathFault where
  | unreadable (text : String) (reason : PathReason)
  | notInObject (path key : String)
  | notInList (path : String) (index : Nat)
  | outOfRange (path : String) (index length : Nat)
  | noItem (path : String) (index length : Nat)
  | notAList (path : String)
  | unknownList (typeName list : String)
  | columnCount (count : Nat)
deriving DecidableEq, Repr

/-- The two parts of a stored project that are themselves JSON texts. -/
inductive StatePart where
  | content
  | settings
deriving DecidableEq, Repr

/-- What can go wrong. -/
inductive Error where
  /-- The component type is not in the catalog. -/
  | unknownType (name : String)
  /-- The page holds as many components as the plan allows. -/
  | limitReached (limit : Nat)
  /-- Removing the item would leave the list empty. -/
  | lastItem (list : String)
  /-- A stored project cannot be read. -/
  | malformedState (part : StatePart)
  | invalidPath (fault : PathFault)
  /-- No component, or no project, has this id. -/
  | notFound (id : Nat)
  | uploadFailed (reason : String)
  | saveFailed (reason : String)
  | transport (reason : String)
  | unreadableJson
  | fileSystem
deriving DecidableEq, Repr

/-! ## Wording -/

/-- How many columns a columns component may have. -/
def columnLimits : Nat × Nat := (1, 4)

/-- The wording of a reason. -/
def PathReason.message : PathReason → String
  | .leadingIndex => "path must start with a field name"
  | .unclosedBracket => "unclosed '['"
  | .badIndex => "list index must be a non-negative integer"
  | .emptyName => "empty field name"
  | .missingSeparator => "expected '.' or '[' after list index"
  | .badCharacter => "field names use letters, digits, '_' and '-'"
  | .incomplete => "empty path"

/-- The wording of a fault. -/
def PathFault.message : PathFault → String
  | .unreadable text reason => "'" ++ text ++ "': " ++ reason.message
  | .notInObject path key => path ++ ": '" ++ key ++ "' is not inside an object"
  | .notInList path index => path ++ ": index " ++ toString index ++ " applied to a non-list"
  | .outOfRange path index length =>
      path ++ ": index " ++ toString index ++ " out of range (length " ++ toString length ++ ")"
  | .noItem path index length =>
      path ++ "[" ++ toString index ++ "] out of range (length " ++ toString length ++ ")"
  | .notAList path => path ++ " is not a list"
  | .unknownList typeName list => typeName ++ " has no list named '" ++ list ++ "'"
  | .columnCount count =>
      "column count " ++ toString count ++ " outside " ++ toString columnLimits.1 ++ "..=" ++
        toString columnLimits.2

/-- The name of a part. -/
def StatePart.name : StatePart → String
  | .content => "content"
  | .settings => "settings"

/-- The wording of an error. -/
def Error.message : Error → String
  | .unknownType name => "Unknown component type: " ++ name
  | .limitReached limit =>
      "Component limit reached. Your plan allows " ++ toString limit ++ " components per page."
  | .lastItem list => "The " ++ list ++ " list needs at least one item"
  | .malformedState part => "Malformed persisted state: " ++ part.name
  | .invalidPath fault => "Invalid field path: " ++ fault.message
  | .notFound id => "Component not found: " ++ toString id
  | .uploadFailed reason => "Upload failed: " ++ reason
  | .saveFailed reason => "Save failed: " ++ reason
  | .transport reason => "HTTP error: " ++ reason
  | .unreadableJson => "JSON error"
  | .fileSystem => "I/O error"

end PageBuilder
