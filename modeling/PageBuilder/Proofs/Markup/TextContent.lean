import PageBuilder.Proofs.Markup.RoundTrip

/-!
# Texts read back

No text of a page is lost when it is written and read again: what a reader finds between the tags,
one text after the other, is the text of the page (`texts_readHtml`).

This is said of pages whose names are made of letters, digits and hyphens, as such characters end no
name (`Reader.isName_of_isPlainName`).  An element without an end tag has to be empty, for what is
in it is not written.
-/

namespace PageBuilder.Markup

/-! ## Names -/

/-- Whether a text is made of letters, digits and hyphens. -/
def isPlainName (s : String) : Bool := s.toList.all fun c => c.isAlphanum || c == '-'

theorem Reader.isName_of_isPlainName {s : String} (h : isPlainName s) : isName s := by
  have hends : nameEnds.all fun d => !d.isAlphanum && d != '-' := by decide
  refine List.all_eq_true.mpr fun c hc => decide_eq_true fun hmem => ?_
  have hend := List.all_eq_true.mp hends c hmem
  rcases Bool.or_eq_true_iff.mp (List.all_eq_true.mp h c hc) with halphanum | hhyphen
  · simp [halphanum] at hend
  · simp [beq_iff_eq.mp hhyphen] at hend

namespace Node

/-- An element with plain names whose content is written, and not read as a script or style
sheet. -/
def Simple : Node → Prop
  | .element tag attributes children =>
      tag ∉ Reader.rawTags ∧ isPlainName tag ∧ (∀ a ∈ attributes, isPlainName a.1) ∧
        (tag ∈ voidTags → children = [])
  | _ => True

theorem Simple.named : ∀ {n : Node}, n.Simple → n.Named
  | .element _ _ _, ⟨hraw, htag, hattributes, _⟩ =>
      ⟨hraw, Reader.isName_of_isPlainName htag, fun a ha =>
        Reader.isName_of_isPlainName (hattributes a ha)⟩
  | .text _, _ | .fragment _, _ | .script _, _ | .comment _, _ => trivial

end Node

/-! ## Texts among events -/

namespace Event

/-- The texts among some events, one after the other. -/
def texts : List Event → String
  | [] => ""
  | .text s :: rest => s ++ texts rest
  | _ :: rest => texts rest

theorem texts_append (front back : List Event) :
    texts (front ++ back) = texts front ++ texts back := by
  induction front with
  | nil => simp [texts]
  | cons e rest ih => cases e <;> simp [texts, ih, String.append_assoc]

theorem texts_onto (e : Event) (rest : List Event) : texts (e.onto rest) = texts (e :: rest) := by
  rw [onto.eq_def]
  split
  · simp [texts, String.append_assoc]
  · split <;> simp [texts, *]
  · rfl

/-- Nothing of the texts is lost when they are merged. -/
theorem texts_merge (events : List Event) : texts (merge events) = texts events := by
  induction events with
  | nil => rfl
  | cons e rest ih =>
      rw [merge, List.foldr_cons, texts_onto, ← merge]
      cases e <;> simp [texts, ih]

end Event

namespace Node

mutual

/-- The texts among the events of a piece are the text of the piece. -/
theorem texts_events : ∀ {n : Node}, (∀ e ∈ n.elements, e.Simple) →
    Event.texts n.events = n.textContent
  | .element tag attributes children, hn => by
      obtain ⟨⟨-, -, -, hempty⟩, hchildren⟩ := List.forall_mem_cons.mp hn
      rw [events, textContent]
      show Event.texts (if tag ∈ voidTags then [] else eventsAll children ++ [.finish tag]) = _
      by_cases htag : tag ∈ voidTags
      · rw [if_pos htag, hempty htag]
        rfl
      · rw [if_neg htag, Event.texts_append, texts_eventsAll hchildren]
        exact String.append_empty
  | .text s, _ => String.append_empty
  | .fragment _, hn => texts_eventsAll hn
  | .script _, _ => rfl
  | .comment _, _ => rfl

theorem texts_eventsAll : ∀ {nodes : List Node}, (∀ e ∈ elementsAll nodes, e.Simple) →
    Event.texts (eventsAll nodes) = textContentAll nodes
  | [], _ => rfl
  | n :: nodes, hnodes => by
      obtain ⟨hn, hnodes⟩ := List.forall_mem_append.mp hnodes
      rw [eventsAll, Event.texts_append, texts_events hn, texts_eventsAll hnodes, textContentAll]

end

end Node

/-- A reader of a page finds all of its text. -/
theorem texts_readHtml {n : Node} (hn : ∀ e ∈ n.elements, e.Simple) :
    (readHtml n.html).map Event.texts = some n.textContent := by
  have hread := events?_html (fun e he => (hn e he).named) []
  rw [List.append_nil, Reader.events?_nil, Option.map_some, ← Event.merge] at hread
  rw [readHtml, hread, Option.map_some, Event.texts_merge, Node.texts_events hn]

end PageBuilder.Markup
