import PageBuilder.Proofs.Blocks.Attributes
import PageBuilder.Proofs.Document.Lifetime

/-!
# The canvas

On the canvas an editor finds the frame of a component by its class, and a control by what it does.
So nothing else on the canvas may look like a frame or a control, whatever the data of the
components say.  It does not, since the content of a component has only the attributes of blocks
(`Component.every_content`).  Therefore the frames are those of the components, one for each
(`Canvas.frames_of`), the controls are theirs (`Canvas.controls_of`), and the only identifiers are
those of the countdowns (`Canvas.identifiers_of`).

With distinct ids and a selection that is that of a component, which all documents have that come
up, at most one frame is selected, and no identifier is there twice (`Canvas.frames_of_arises`).
-/

namespace PageBuilder

open Markup

/-! ## What is found on a canvas -/

namespace Canvas

/-- The class of the frame of a component that is selected. -/
def selectedClass : String := "canvas-component selected"

/-- The classes of frames. -/
def frameClasses : List String := ["canvas-component", selectedClass]

/-- An element that is found as a frame. -/
def isFrame (e : Node) : Bool := (e.attribute? "class").any (· ∈ frameClasses)

/-- An element that is found as the frame of a component that is selected. -/
def isSelectedFrame (e : Node) : Bool := e.attribute? "class" == some selectedClass

/-- An element that is found as a control. -/
def isControl (e : Node) : Bool := (e.attribute? "data-action").isSome

end Canvas

/-! ## The content of a component -/

namespace Markup.Attribute.OfBlock

variable {id : Nat} {value : String}

theorem class_mem (h : Attribute.OfBlock id ("class", value)) :
    value ∈ Blocks.countdownUnits.map Prod.fst := by
  simpa [Attribute.OfBlock, cls] using h

theorem not_action : ¬ Attribute.OfBlock id ("data-action", value) := by
  simp [Attribute.OfBlock, cls]

end Markup.Attribute.OfBlock

namespace Component

theorem filter_isFrame_content (c : Component) : c.content.elements.filter Canvas.isFrame = [] := by
  refine List.filter_eq_nil_iff.mpr fun e he hframe => ?_
  obtain ⟨value, hvalue, hclass⟩ := (Option.any_eq_true _ _).mp hframe
  -- The only classes in a content are those that the script of a countdown looks for.
  have hunit := (c.every_content e he _ (Node.mem_attributes_of_attribute? hvalue)).class_mem
  have hdisjoint : ∀ name ∈ Blocks.countdownUnits.map Prod.fst, name ∉ Canvas.frameClasses := by
    decide
  exact hdisjoint value hunit (of_decide_eq_true hclass)

theorem filter_isControl_content (c : Component) :
    c.content.elements.filter Canvas.isControl = [] := by
  refine List.filter_eq_nil_iff.mpr fun e he hcontrol => ?_
  obtain ⟨value, hvalue⟩ := Option.isSome_iff_exists.mp hcontrol
  exact (c.every_content e he _ (Node.mem_attributes_of_attribute? hvalue)).not_action

theorem identifiers_content (c : Component) :
    c.content.identifiers =
      if c.kind? = some .countdown then [Blocks.countdownId c.id] else [] := by
  rw [content]
  split
  next kind hkind =>
    by_cases hk : kind = .countdown
    · rw [hkind, hk, if_pos rfl]
      exact Blocks.identifiers_countdown c.id c.data
    · rw [hkind, if_neg (fun h => hk (Option.some.inj h))]
      exact Node.identifiers_of_plain (Kind.plain_markup hk c.id c.data)
  next hkind =>
    rw [hkind, if_neg (by simp)]
    exact Node.identifiers_of_plain (by simp)

theorem identifiers_contents (cs : List Component) :
    cs.flatMap (·.content.identifiers) =
      (cs.filter (·.kind? = some .countdown)).map (Blocks.countdownId ·.id) := by
  induction cs with
  | nil => rfl
  | cons c rest ih =>
      rw [List.flatMap_cons, ih, identifiers_content]
      by_cases hkind : c.kind? = some .countdown <;> simp [hkind]

end Component

/-! ## The elements of a canvas -/

namespace Canvas

theorem elements_frame (c : Component) (selected : Bool) :
    (frame c selected).elements =
      frame c selected :: (c.content.elements ++ (controls c.id selected).elements) := by
  simp [frame, Node.elements, Node.elementsAll]

theorem elements_of {cs : List Component} (hcs : cs ≠ []) (selected : Option Nat) :
    (Canvas.of cs selected).elements =
      cs.flatMap fun c => (frame c (selected == some c.id)).elements := by
  rw [Canvas.of, if_neg (by simpa using hcs), Node.elements, Node.elementsAll_eq, List.flatMap_map]

/-- What is found on a canvas is found in the frames, if there is nothing to be found on an empty
canvas. -/
theorem filter_of {p : Node → Bool} (hp : placeholder.elements.filter p = []) (cs : List Component)
    (selected : Option Nat) :
    (Canvas.of cs selected).elements.filter p =
      cs.flatMap fun c => (frame c (selected == some c.id)).elements.filter p := by
  by_cases hcs : cs = []
  · rw [hcs]
    exact hp
  · rw [elements_of hcs, List.filter_flatMap]

@[simp] theorem isFrame_frame (c : Component) (selected : Bool) : isFrame (frame c selected) := by
  cases selected <;> rfl

@[simp] theorem isSelectedFrame_frame (c : Component) (selected : Bool) :
    isSelectedFrame (frame c selected) = selected := by
  cases selected <;> rfl

@[simp] theorem not_isControl_frame (c : Component) (selected : Bool) :
    isControl (frame c selected) = false := rfl

theorem filter_isFrame_controls (id : Nat) (visible : Bool) :
    (controls id visible).elements.filter isFrame = [] := by
  simp [controls, control, Node.elements, Node.elementsAll, isFrame, Node.attribute?, cls, style,
    List.lookup, frameClasses, selectedClass]

/-- The three controls of a component. -/
def controlsOf (id : Nat) : List Node :=
  [control id "up" "Move Up" "\u2191" selectedColor,
    control id "down" "Move Down" "\u2193" selectedColor,
    control id "delete" "Delete" "\u00d7" deleteColor]

theorem filter_isControl_controls (id : Nat) (visible : Bool) :
    (controls id visible).elements.filter isControl = controlsOf id := by
  simp [controls, controlsOf, control, Node.elements, Node.elementsAll, isControl, Node.attribute?,
    cls, style, List.lookup]

/-- The frames on a canvas are those of its components, in their order. -/
theorem frames_of (cs : List Component) (selected : Option Nat) :
    (Canvas.of cs selected).elements.filter isFrame =
      cs.map fun c => frame c (selected == some c.id) := by
  rw [filter_of (by rfl), List.map_eq_flatMap]
  simp [elements_frame, Component.filter_isFrame_content, filter_isFrame_controls]

/-- The controls on a canvas are those of its components, in their order. -/
theorem controls_of (cs : List Component) (selected : Option Nat) :
    (Canvas.of cs selected).elements.filter isControl = cs.flatMap fun c => controlsOf c.id := by
  rw [filter_of (by rfl)]
  simp [elements_frame, Component.filter_isControl_content, filter_isControl_controls]

theorem identifiers_frame (c : Component) (selected : Bool) :
    (frame c selected).identifiers = c.content.identifiers := by
  have hframe : (frame c selected).attributes.filter (·.1 == "id") = [] := by
    simp [frame, Node.attributes, cls, style]
  have hcontrols : (controls c.id selected).identifiers = [] := by
    simp [controls, control, Node.identifiers, Node.elements, Node.elementsAll, Node.attributes,
      cls, style]
  rw [Node.identifiers, elements_frame, List.flatMap_cons, List.flatMap_append, hframe,
    ← Node.identifiers, ← Node.identifiers, hcontrols]
  simp

/-- The identifiers on a canvas are those of the countdowns. -/
theorem identifiers_of (cs : List Component) (selected : Option Nat) :
    (Canvas.of cs selected).identifiers =
      (cs.filter (·.kind? = some .countdown)).map (Blocks.countdownId ·.id) := by
  rw [← Component.identifiers_contents]
  by_cases hcs : cs = []
  · rw [hcs]
    rfl
  · rw [Node.identifiers, elements_of hcs, List.flatMap_assoc]
    exact List.flatMap_congr fun c _ => identifiers_frame c _

end Canvas

/-! ## The canvas of a document -/

namespace Document

/-- With distinct ids a selection that is that of a component is that of one only. -/
theorem ids_selected {d : Document} (hunique : d.ids.Nodup) (hselects : d.Selects) :
    (d.components.filter fun c => d.selected == some c.id).map Component.id =
      d.selected.toList := by
  have hids : (d.components.filter fun c => d.selected == some c.id).map Component.id =
      d.ids.filter (d.selected == some ·) := by
    rw [ids, List.filter_map]
    rfl
  rw [hids]
  cases hselected : d.selected with
  | none => simp
  | some id =>
      have hone := List.count_eq_one_of_mem hunique (hselects id hselected)
      have hsame : d.ids.filter (some id == some ·) = d.ids.filter (· == id) :=
        List.filter_congr fun other _ => by simp [eq_comm]
      rw [hsame, List.filter_beq, hone]
      rfl

end Document

namespace Canvas

/-- On the canvas of a document that comes up, whatever the kinds and the data of its components
are, there is one frame for each component, in their order, with its id and the name of its kind.
Exactly one frame is that of a selected component if one is selected, and none otherwise.  The
controls are three for each component, with its id.  No identifier is there twice.  Without
components the canvas is the placeholder. -/
theorem frames_of_arises {d : Document} (h : Document.Arises d) :
    let canvas := Canvas.of d.components d.selected
    let frames := canvas.elements.filter isFrame
    frames.map (fun e => (e.attribute? "data-id", e.attribute? "data-type")) =
      d.components.map (fun c => (some (toString c.id), some c.typeName)) ∧
    (frames.filter isSelectedFrame).map (·.attribute? "data-id") =
      d.selected.toList.map (fun id => some (toString id)) ∧
    (canvas.elements.filter isControl).map
        (fun e => (e.attribute? "data-action", e.attribute? "data-id")) =
      d.components.flatMap (fun c =>
        ["up", "down", "delete"].map fun action => (some action, some (toString c.id))) ∧
    canvas.identifiers.Nodup ∧
    (d.components = [] → canvas = placeholder) := by
  have hunique := h.distinct.unique
  refine ⟨?_, ?_, ?_, ?_, ?_⟩
  · rw [frames_of, List.map_map]
    rfl
  · have hselected : (isSelectedFrame ∘ fun c => frame c (d.selected == some c.id)) =
        fun c => d.selected == some c.id :=
      funext fun c => isSelectedFrame_frame c _
    rw [frames_of, List.filter_map, hselected, List.map_map,
      ← Document.ids_selected hunique h.selects, List.map_map]
    rfl
  · rw [controls_of, List.map_flatMap]
    rfl
  · have hcountdowns := hunique.sublist
      (List.filter_sublist (p := (·.kind? = some .countdown)) |>.map Component.id)
    rw [identifiers_of]
    have hidentifiers := hcountdowns.map Blocks.countdownId_injective
    rwa [List.map_map] at hidentifiers
  · intro hempty
    rw [hempty]
    rfl

/-- A page with two countdowns of one id and a component whose kind and data look like a frame and a
control; the second countdown is selected. -/
def staged : Document :=
  (Document.ofComponents
    [⟨3, "countdown", []⟩, ⟨3, "countdown", [("heading", .str "<div class=canvas-component>")]⟩,
      ⟨9, "canvas-component selected", [("data-action", .str "up")]⟩]
    10).perform (.select (some 10))

theorem frames_of_arises_staged :
    let canvas := Canvas.of staged.components staged.selected
    Document.Arises staged ∧
    (canvas.elements.filter isFrame).map
        (fun e => (e.attribute? "data-id", e.attribute? "data-type")) =
      [(some "3", some "countdown"), (some "10", some "countdown"),
        (some "9", some "canvas-component selected")] ∧
    ((canvas.elements.filter isFrame).filter isSelectedFrame).map (·.attribute? "data-id") =
      [some "10"] ∧
    canvas.identifiers.Nodup := by
  intro canvas
  have harises : Document.Arises staged := .perform _ (.ofComponents _ _)
  obtain ⟨hframes, hselected, _, hidentifiers, _⟩ := frames_of_arises harises
  refine ⟨harises, hframes.trans ?_, hselected.trans ?_, hidentifiers⟩
  · rfl
  · rfl

end Canvas

end PageBuilder
