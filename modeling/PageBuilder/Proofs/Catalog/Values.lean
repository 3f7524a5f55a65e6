import PageBuilder.Catalog.Lists
import PageBuilder.Proofs.Json.Storable

/-!
# The catalog holds values that can be stored

The template of every kind, and every item that is appended to a list of a kind, is storable.
-/

namespace PageBuilder

open Json

namespace Template

@[simp] theorem storable_record {fields : List (String × Json)}
    (h : ∀ e ∈ fields, e.2.Storable) : (record fields).Storable :=
  Storable.ofList h

end Template

namespace Kind

theorem storable_template (k : Kind) : Storable (.obj k.template) := by
  cases k
  all_goals
    refine Storable.ofList ?_
    simp [OfNat.ofNat, maxWord]

theorem storable_series (component : Object) : (NewItem.series component).Storable := by
  have hvalue : ∀ i j : Nat, NewItem.sampleValue i j ≤ maxWord := by
    intro i j
    unfold NewItem.sampleValue maxWord
    omega
  simp [NewItem.series, hvalue]

/-- What is appended to a list is storable. -/
theorem storable_defaultItem {k : Kind} {list : String} {component : Object} {item : Json}
    (h : k.defaultItem list component = some item) : item.Storable := by
  unfold defaultItem at h
  split at h
  all_goals cases h
  all_goals first
    | simp [NewItem.step]
    | simp [OfNat.ofNat, maxWord]
    | exact storable_series component

end Kind

end PageBuilder
