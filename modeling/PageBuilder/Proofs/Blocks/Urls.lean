import PageBuilder.Proofs.Blocks.Attributes

/-!
# URLs of blocks

Links, images, frames and forms hold URLs, and a browser follows them.  No component holds one
that runs a script, whatever its kind and its data (`harmless_of_content`).
-/

namespace PageBuilder

namespace Markup

/-- What an attribute holds is harmless, if a browser follows it at all. -/
def Attribute.Inert (a : Attribute) : Prop := a.1 ∈ urlNames → Harmless a.2

@[simp] theorem inert_css (value : String) : (css value).Inert := by simp [css, Attribute.Inert]

theorem Attribute.Plain.inert {a : Attribute} (h : a.Plain) : a.Inert := by
  intro hurl
  rcases h with hplain | ⟨_, hharmless⟩
  · have hdisjoint : ∀ name ∈ urlNames, name ∉ plainNames := by decide
    exact absurd hplain (hdisjoint _ hurl)
  · exact hharmless

/-- Whatever a browser follows in a piece of a page is harmless. -/
def Node.Inert (n : Node) : Prop := ∀ e ∈ n.elements, ∀ a ∈ e.attributes, Attribute.Inert a

@[simp] theorem Node.inert_iff {n : Node} : n.Inert ↔ n.Every Attribute.Inert := Iff.rfl

end Markup

open Markup

/-- Neither an identifier nor a class is followed. -/
theorem Markup.Attribute.OfBlock.inert {id : Nat} {a : Attribute} (h : a.OfBlock id) : a.Inert := by
  rcases h with hplain | rfl | hclass
  · exact hplain.inert
  · simp [Attribute.Inert]
  · obtain ⟨unit, _, rfl⟩ := List.mem_map.mp hclass
    simp [cls, Attribute.Inert]

theorem Kind.inert_markup (id : Nat) (d : Object) (kind : Kind) : (kind.markup id d).Inert :=
  (Kind.every_markup id d kind).mono fun _ h => h.inert

/-- No component has a link, an image, a frame or a form that runs a script when a browser follows
it. -/
theorem Component.harmless_of_content (c : Component) :
    ∀ e ∈ c.content.elements, ∀ a ∈ e.attributes, a.1 ∈ urlNames → Harmless a.2 := by
  show c.content.Inert
  rw [Component.content]
  split
  · exact Kind.inert_markup _ _ _
  · simp

/-- A video whose URL is a script in disguise. -/
theorem Component.harmless_of_content_video :
    let c : Component := ⟨1, "video", [("url", .str " JaVa\tScript:alert(1)")]⟩
    ∃ e ∈ c.content.elements, ∃ a ∈ e.attributes, a.1 ∈ urlNames ∧ a = ("src", "#") ∧
      Harmless a.2 := by
  intro c
  have hkind : c.content = Blocks.video c.data := by
    rw [Component.content, show c.kind? = some .video by decide]
    rfl
  have hframe : ∃ e ∈ c.content.elements, url "src" (c.data.text "url") ∈ e.attributes := by
    rw [hkind]
    simp [Blocks.video, Blocks.sectionBox, Blocks.container, Blocks.el, Blocks.heading,
      Node.elements, Node.elementsAll, Node.attributes]
  have hurl : url "src" (c.data.text "url") = ("src", "#") := by decide +kernel
  obtain ⟨e, he, ha⟩ := hframe
  rw [hurl] at ha
  have hname : "src" ∈ urlNames := by decide
  exact ⟨e, he, _, ha, hname, rfl, harmless_of_content c e he _ ha hname⟩

end PageBuilder
