import PageBuilder.Markup.Node

/-!
# Attributes in a piece of a page

What holds of every attribute in a piece of a page (`Node.Every`) is read off the way the piece is
built: there is one law for each way to build pieces.
-/

namespace PageBuilder.Markup.Node

/-- The attributes of an element. -/
def attributes : Node → List Attribute
  | .element _ attributes _ => attributes
  | _ => []

/-- The identifiers in a piece of a page. -/
def identifiers (n : Node) : List String :=
  n.elements.flatMap fun e => (e.attributes.filter (·.1 == "id")).map Prod.snd

theorem mem_attributes_of_attribute? {e : Node} {name value : String}
    (h : e.attribute? name = some value) : (name, value) ∈ e.attributes := by
  cases e with
  | element tag attributes children =>
      obtain ⟨front, back, heq, _⟩ := List.lookup_eq_some_iff.mp h
      rw [Node.attributes, heq]
      simp
  | _ => cases h

theorem elementsAll_eq (nodes : List Node) : elementsAll nodes = nodes.flatMap elements := by
  induction nodes with
  | nil => rfl
  | cons n rest ih => rw [elementsAll, ih, List.flatMap_cons]

/-- Something is true of every attribute in a piece of a page. -/
def Every (n : Node) (P : Attribute → Prop) : Prop := ∀ e ∈ n.elements, ∀ a ∈ e.attributes, P a

/-- Something is true of every attribute in some pieces. -/
def EveryAll (nodes : List Node) (P : Attribute → Prop) : Prop := ∀ n ∈ nodes, n.Every P

variable {P Q : Attribute → Prop}

theorem Every.mono {n : Node} (h : n.Every P) (himp : ∀ a, P a → Q a) : n.Every Q :=
  fun e he a ha => himp a (h e he a ha)

/-! ## Lists of pieces -/

@[simp] theorem everyAll_nil : EveryAll [] P := List.forall_mem_nil _

@[simp] theorem everyAll_cons (n : Node) (rest : List Node) :
    EveryAll (n :: rest) P ↔ n.Every P ∧ EveryAll rest P :=
  List.forall_mem_cons

@[simp] theorem everyAll_append (front back : List Node) :
    EveryAll (front ++ back) P ↔ EveryAll front P ∧ EveryAll back P :=
  List.forall_mem_append

@[simp] theorem everyAll_map {α : Type} (draw : α → Node) (xs : List α) :
    EveryAll (xs.map draw) P ↔ ∀ x ∈ xs, (draw x).Every P :=
  List.forall_mem_map

@[simp] theorem everyAll_flatMap {α : Type} (draw : α → List Node) (xs : List α) :
    EveryAll (xs.flatMap draw) P ↔ ∀ x ∈ xs, EveryAll (draw x) P := by
  induction xs with
  | nil => simp
  | cons x rest ih => simp [ih]

@[simp] theorem everyAll_mapIdx {α : Type} (draw : Nat → α → Node) (xs : List α) :
    EveryAll (xs.mapIdx draw) P ↔ ∀ (i : Nat) (h : i < xs.length), (draw i xs[i]).Every P := by
  simp only [EveryAll, List.mem_mapIdx]
  exact ⟨fun hall i h => hall _ ⟨i, h, rfl⟩, fun hall _ ⟨i, h, heq⟩ => heq ▸ hall i h⟩

@[simp] theorem everyAll_ite (p : Prop) [Decidable p] (yes no : List Node) :
    EveryAll (if p then yes else no) P ↔ (p → EveryAll yes P) ∧ (¬ p → EveryAll no P) := by
  split <;> simp [*]

theorem everyAll_elementsAll (nodes : List Node) :
    (∀ e ∈ elementsAll nodes, ∀ a ∈ e.attributes, P a) ↔ EveryAll nodes P := by
  rw [elementsAll_eq]
  simp only [EveryAll, Every, List.mem_flatMap]
  exact ⟨fun h n hn e he => h e ⟨n, hn, he⟩, fun h e ⟨n, hn, he⟩ => h n hn e he⟩

/-! ## Pieces -/

@[simp] theorem every_element (tag : String) (attributes : List Attribute)
    (children : List Node) :
    (element tag attributes children).Every P ↔
      (∀ a ∈ attributes, P a) ∧ EveryAll children P := by
  rw [Every, elements, List.forall_mem_cons, everyAll_elementsAll, Node.attributes]

@[simp] theorem every_text (s : String) : (text s).Every P := List.forall_mem_nil _

@[simp] theorem every_script (body : String) : (script body).Every P := List.forall_mem_nil _

@[simp] theorem every_comment (body : String) : (comment body).Every P := List.forall_mem_nil _

@[simp] theorem every_fragment (nodes : List Node) :
    (fragment nodes).Every P ↔ EveryAll nodes P := by
  rw [Every, elements, everyAll_elementsAll]

end PageBuilder.Markup.Node
