/-!
# Plans

What an owner of a site may keep: how many projects, and how many components on each page.
-/

namespace PageBuilder

/-- A plan. -/
inductive Plan where
  | free
  | pro
deriving DecidableEq, Repr

namespace Plan

/-- How many components a page may have. -/
def componentLimit : Plan → Nat
  | .free => 10
  | .pro => 999

/-- How many projects there may be. -/
def projectLimit : Plan → Nat
  | .free => 3
  | .pro => 999

/-- The name that people read. -/
def title : Plan → String
  | .free => "Free"
  | .pro => "Pro"

/-- The plan that an option names. -/
def ofName? : String → Option Plan
  | "free" => some .free
  | "pro" => some .pro
  | _ => none

end Plan

end PageBuilder
