import PageBuilder.Proofs.Blocks.Attributes
import PageBuilder.Proofs.Document.Loading
import PageBuilder.Proofs.Markup.RoundTrip
import PageBuilder.Proofs.Project.Content
import PageBuilder.Site.Basic

/-!
# The page of a project

A site shows a stored project with the ids it was stored with, while an editor mends the ids when it
opens the project.  The page shows only the ids of countdowns (`Kind.markup_eq`), but these it tells
(`Blocks.tells_countdown`).  So pages of the same components under different ids are the same
exactly if the countdowns have the same ids (`Page.html_eq_iff`), and a site and an editor show the
same page of a project exactly if no countdown is given another id (`Site.pages_agree`).
-/

namespace PageBuilder

open Markup Markup.Reader

/-! ## Texts that tell a number -/

/-- The text for a number tells the number, whatever stands after it. -/
def Tells (text : Nat → String) : Prop :=
  ∀ ⦃m n : Nat⦄ ⦃rest rest' : String⦄, text m ++ rest = text n ++ rest' → m = n

namespace Tells

variable {text : Nat → String}

theorem prepend (h : Tells text) (front : String) : Tells fun n => front ++ text n := by
  intro m n rest rest' heq
  rw [String.append_assoc, String.append_assoc, String.append_right_inj] at heq
  exact h heq

theorem append (h : Tells text) (back : Nat → String) : Tells fun n => text n ++ back n := by
  intro m n rest rest' heq
  rw [String.append_assoc, String.append_assoc] at heq
  exact h heq

/-- The value of an attribute ends at the quote after it. -/
theorem escapeAttribute {value : Nat → String} (h : Function.Injective value) :
    Tells fun n => Markup.escapeAttribute (value n) ++ "\"" := by
  intro m n rest rest' heq
  have hvalue (k : Nat) := ne_quote_of_mem_escapeAttribute (value k)
  have hfront := congrArg (fun s => s.toList.takeWhile (decide <| · ≠ '"')) heq
  simp only [String.toList_append, List.append_assoc, String.reduceToList, List.cons_append,
    List.nil_append, takeWhile_until (hvalue _) (by decide : decide ('"' ≠ '"') = false)] at hfront
  have hread := congrArg unescape hfront
  rw [unescape_escapeAttribute, unescape_escapeAttribute, String.toList_inj] at hread
  exact h hread

/-! ### Pieces of a page -/

/-- The number stands in the first attribute. -/
theorem start {value : Nat → String} (h : Function.Injective value) (tag name : String)
    (attributes : List Attribute) (children : List Node) :
    Tells fun n => (Node.element tag ((name, value n) :: attributes) children).html := by
  have hhtml (n : Nat) : (Node.element tag ((name, value n) :: attributes) children).html =
      "<" ++ tag ++ " " ++ name ++ "=\"" ++ (Markup.escapeAttribute (value n) ++ "\"" ++
        (Node.attributesText attributes ++ ">" ++
          if tag ∈ Node.voidTags then "" else Node.htmlAll children ++ "</" ++ tag ++ ">")) := by
    simp [Node.html, Node.attributesText, String.append_assoc]
  rw [funext hhtml]
  exact ((escapeAttribute h).append _).prepend _

/-- The number stands in the children. -/
theorem inside {children : Nat → List Node} (h : Tells fun n => Node.htmlAll (children n))
    (attributes : List Attribute) {tag : String} (htag : tag ∉ Node.voidTags) :
    Tells fun n => (Node.element tag attributes (children n)).html := by
  have hhtml (n : Nat) : (Node.element tag attributes (children n)).html =
      "<" ++ tag ++ Node.attributesText attributes ++ ">" ++
        (Node.htmlAll (children n) ++ ("</" ++ tag ++ ">")) := by
    simp [Node.html, htag, String.append_assoc]
  rw [funext hhtml]
  exact (h.append _).prepend _

theorem head {node : Nat → Node} (h : Tells fun n => (node n).html) (rest : Nat → List Node) :
    Tells fun n => Node.htmlAll (node n :: rest n) :=
  h.append _

theorem tail {rest : Nat → List Node} (h : Tells fun n => Node.htmlAll (rest n)) (node : Node) :
    Tells fun n => Node.htmlAll (node :: rest n) :=
  h.prepend _

end Tells

/-! ## Ids on a page -/

namespace Blocks

/-- The id stands in the markup of a countdown, behind a heading that does not depend on it. -/
theorem tells_countdown (d : Object) : Tells fun id => (countdown id d).html := by
  have hgrid (attributes : List Attribute) (units : List Node) :
      Tells fun id => (el "div" (("id", countdownId id) :: attributes) units).html :=
    .start countdownId_injective _ _ _ _
  have hcontent (title subtitle : Node) (attributes : List Attribute) (units : List Node) :
      Tells fun id => Node.htmlAll
        [title, subtitle, el "div" (("id", countdownId id) :: attributes) units] :=
    (((hgrid attributes units).head fun _ => []).tail subtitle).tail title
  have hdiv : "div" ∉ Node.voidTags := by decide
  exact (((hcontent _ _ _ _).inside _ hdiv).head fun _ => []).inside _ hdiv |>.head _

end Blocks

/-- Only the markup of a countdown depends on the id. -/
theorem Kind.markup_eq {k : Kind} (hk : k ≠ .countdown) (id other : Nat) (d : Object) :
    k.markup id d = k.markup other d := by
  cases k
  all_goals first
    | rfl
    | exact absurd rfl hk

namespace Component

variable {c c' : Component}

theorem kind?_congr (h : c.label = c'.label) : c.kind? = c'.kind? :=
  congrArg (fun label : String × Object => Kind.ofName? label.1) h

theorem content_congr (h : c.label = c'.label) (hid : c.kind? = some .countdown → c'.id = c.id) :
    c.content = c'.content := by
  have hdata : c.data = c'.data := congrArg Prod.snd h
  rw [content, content, ← kind?_congr h, ← hdata]
  cases hkind : c.kind? with
  | none => rfl
  | some k =>
      by_cases hk : k = .countdown
      · rw [hid (hk ▸ hkind)]
      · exact Kind.markup_eq hk c.id c'.id c.data

/-- Countdowns that are the same up to their ids do not begin alike. -/
theorem id_eq_of_html (h : c.label = c'.label) (hkind : c.kind? = some .countdown)
    {rest rest' : String} (hhtml : c.content.html ++ rest = c'.content.html ++ rest') :
    c'.id = c.id := by
  have hdata : c.data = c'.data := congrArg Prod.snd h
  rw [content, content, ← kind?_congr h, ← hdata, hkind] at hhtml
  exact (Blocks.tells_countdown c.data hhtml).symm

end Component

/-! ## Pages under different ids -/

namespace Page

/-- The countdowns among some components have the ids that are given. -/
def CountdownsKeep (cs : List Component) (ids : List Nat) : Prop :=
  ∀ (i : Nat) (c : Component), cs[i]? = some c → c.kind? = some .countdown → ids[i]? = some c.id

theorem countdownsKeep_cons {c : Component} {cs : List Component} {id : Nat} {ids : List Nat} :
    CountdownsKeep (c :: cs) (id :: ids) ↔
      (c.kind? = some .countdown → id = c.id) ∧ CountdownsKeep cs ids := by
  refine ⟨fun h => ⟨fun hkind => Option.some.inj (h 0 c rfl hkind), fun i => h (i + 1)⟩, ?_⟩
  rintro ⟨hc, hcs⟩ i c' hi hkind
  cases i with
  | zero =>
      cases hi
      exact congrArg some (hc hkind)
  | succ i => exact hcs i c' hi hkind

/-- What stands in a page after a component. -/
def following (cs : List Component) : String :=
  String.join (cs.map fun c => "\n" ++ c.content.html)

theorem following_cons (c : Component) (cs : List Component) :
    following (c :: cs) = "\n" ++ (c.content.html ++ following cs) := by
  rw [following, List.map_cons, String.join_cons, String.append_assoc, following]

theorem body_cons (c : Component) (cs : List Component) :
    body (c :: cs) = c.content.html ++ following cs := by
  induction cs generalizing c with
  | nil => simp [body, following]
  | cons c' cs ih =>
      rw [following_cons, ← ih c', body, List.map_cons, List.map_cons,
        String.intercalate_cons_cons, body, List.map_cons, String.append_assoc]

/-- The ids of countdowns can be read off a page from its beginning on, while the components before
are the same. -/
theorem following_eq_iff {cs cs' : List Component}
    (h : cs.map Component.label = cs'.map Component.label) :
    following cs = following cs' ↔ CountdownsKeep cs (cs'.map Component.id) := by
  induction cs generalizing cs' with
  | nil =>
      cases cs' with
      | nil => exact iff_of_true rfl (by simp [CountdownsKeep])
      | cons _ _ => cases h
  | cons c cs ih =>
      cases cs' with
      | nil => cases h
      | cons c' cs' =>
          obtain ⟨hc, hcs⟩ := List.cons.inj h
          rw [following_cons, following_cons, String.append_right_inj, List.map_cons,
            countdownsKeep_cons, ← ih hcs]
          constructor
          · intro heq
            -- The texts begin with the first components, so an id told there is the same in both.
            have hid (hkind : c.kind? = some .countdown) := Component.id_eq_of_html hc hkind heq
            rw [Component.content_congr hc hid, String.append_right_inj] at heq
            exact ⟨hid, heq⟩
          · rintro ⟨hid, heq⟩
            rw [Component.content_congr hc hid, heq]

/-- Pages of the same components under different ids are the same exactly if the countdowns have the
same ids. -/
theorem html_eq_iff {cs cs' : List Component}
    (h : cs.map Component.label = cs'.map Component.label) (settings : Settings) :
    html cs settings = html cs' settings ↔ CountdownsKeep cs (cs'.map Component.id) := by
  have hbody : html cs settings = html cs' settings ↔ body cs = body cs' := by
    unfold html
    rw [String.append_left_inj, String.append_right_inj]
  rw [← following_eq_iff h, hbody]
  cases cs with
  | nil =>
      cases cs' with
      | nil => exact iff_of_true rfl rfl
      | cons _ _ => cases h
  | cons c cs =>
      cases cs' with
      | nil => cases h
      | cons c' cs' =>
          rw [following_cons, following_cons, ← body_cons, ← body_cons, String.append_right_inj]

end Page

/-! ## Loaded pages -/

namespace Document

/-- Loading keeps the id of a component if there is room and no component before has it, or if there
is no room and it is the one that the component is given. -/
theorem kept_ofComponents_iff {cs : List Component} (limit : Nat) {i : Nat} {c : Component}
    (hc : cs[i]? = some c) :
    (ofComponents cs limit).ids[i]? = some c.id ↔
      if maxId cs + (cs.length + 1) ≤ maxWord then c.id ∉ (cs.take i).map Component.id
      else c.id = i + 1 := by
  have hid : (cs.map Component.id)[i]? = some c.id := by rw [List.getElem?_map, hc]; rfl
  split
  next hroom =>
    have hlt := Nat.lt_succ_of_le (le_maxId (List.mem_of_getElem? hc))
    rw [(mended_ofComponents limit hroom).1.kept_iff hlt hid, mem_repetitions hid, List.map_take]
  next hroom =>
    have hi : i < cs.length := (List.getElem?_eq_some_iff.mp hc).1
    rw [ids_ofComponents_of_lt limit (Nat.lt_of_not_le hroom), List.getElem?_range' hi]
    simp
    omega

end Document

namespace Site

open Document (maxId)

/-- A site and an editor show the same page of a record exactly if the editor has left the
countdowns their ids. -/
theorem pageOf_eq_iff (r : Project.Record) (limit delay : Nat) (replies : List StoreReply) :
    let e := Editor.ofProject r.project limit delay replies
    pageOf r = e.html ↔ Page.CountdownsKeep r.project.components e.document.ids :=
  Page.html_eq_iff (Document.labels_ofComponents r.project.components limit).symm
    r.project.settings

/-- A preview of a project and its export are the same page, whatever the record of the project.
It is the page an editor exports that has just opened the record, for any plan, exactly if each
countdown has an id that no component before it has; or, if the greatest id leaves no room for as
many ids as there are components, if each countdown has its position as its id. -/
theorem pages_agree (r : Project.Record) (limit delay : Nat) (replies : List StoreReply) :
    let cs := r.project.components
    (∀ (s : Site) (id : Nat) (p : StoredProject), s.store.get? id = some p → p.record = r →
      s.preview? id = some (pageOf r) ∧ s.exportPage id "html" = .ok (pageOf r)) ∧
    (pageOf r = (Editor.ofProject r.project limit delay replies).html ↔
      ∀ i c, cs[i]? = some c → c.kind? = some .countdown →
        if maxId cs + (cs.length + 1) ≤ maxWord then c.id ∉ (cs.take i).map Component.id
        else c.id = i + 1) := by
  refine ⟨?_, (pageOf_eq_iff r limit delay replies).trans ?_⟩
  · rintro s id p hp rfl
    rw [preview?, exportPage, record, hp]
    exact ⟨rfl, rfl⟩
  · refine forall_congr' fun i => forall_congr' fun c => forall₂_congr fun hc _ => ?_
    exact Document.kept_ofComponents_iff limit hc

/-- A record that some components were saved to. -/
def saved (cs : List Component) : Project.Record :=
  (Project.Record.new 1 "Sale").apply (.of "Sale" cs {})

section

variable {cs : List Component}

theorem components_saved (h : ∀ c ∈ cs, c.id ≤ maxWord ∧ c.data = []) :
    (saved cs).project.components = cs := by
  have hencodable : ∀ c ∈ cs, c.Encodable := fun c hc =>
    { word := (h c hc).1
      ordered := by rw [(h c hc).2]; exact ⟨.nil, trivial⟩
      exact := by rw [(h c hc).2]; trivial }
  have hdepth : ∀ c ∈ cs, c.depth ≤ 125 := fun c hc => by
    rw [Component.depth, (h c hc).2]
    decide
  rw [saved, Project.project_apply, Project.reloaded_components hencodable, if_pos hdepth]

theorem document_saved (h : ∀ c ∈ cs, c.id ≤ maxWord ∧ c.data = []) (limit delay : Nat)
    (replies : List StoreReply) :
    (Editor.ofProject (saved cs).project limit delay replies).document =
      .ofComponents cs limit := by
  have hopened (p : Project) :
      (Editor.ofProject p limit delay replies).document = .ofComponents p.components limit := rfl
  rw [hopened, components_saved h]

end

/-- A repeated id is replaced when an editor opens the project, but it is not that of the
countdown. -/
theorem pages_agree_repeated :
    let cs : List Component := [⟨1, "hero", []⟩, ⟨1, "text", []⟩, ⟨5, "countdown", []⟩]
    let e := Editor.ofProject (saved cs).project 10 0 []
    let s : Site := ⟨⟨.free, [(1, ⟨saved cs, "", ""⟩)], none⟩, 0, "uploads", []⟩
    e.document.ids = [1, 6, 5] ∧ s.preview? 1 = some e.html ∧
      s.exportPage 1 "html" = .ok e.html := by
  intro cs e s
  have hcs : ∀ c ∈ cs, c.id ≤ maxWord ∧ c.data = [] := by decide
  have hids : e.document.ids = [1, 6, 5] := by
    rw [document_saved hcs]
    decide
  obtain ⟨hshown, hsame⟩ := pages_agree (saved cs) 10 0 []
  have hpage : pageOf (saved cs) = e.html := by
    refine hsame.mpr ?_
    rw [components_saved hcs]
    intro i c hc hkind
    rw [if_pos (by decide)]
    match i, hc with
    | 0, rfl | 1, rfl => exact absurd hkind (by decide)
    | 2, rfl => decide
  obtain ⟨hpreview, hexport⟩ := hshown s 1 ⟨saved cs, "", ""⟩ rfl rfl
  rw [hpage] at hpreview hexport
  exact ⟨hids, hpreview, hexport⟩

/-- Two countdowns with one id are shown by a site as they are, but by an editor under two ids; and
a countdown with the last id is shown by an editor as the first one. -/
theorem pages_differ :
    let twins : List Component := [⟨1, "countdown", []⟩, ⟨1, "countdown", []⟩]
    let last : List Component := [⟨maxWord, "countdown", []⟩]
    let opened (cs : List Component) := Editor.ofProject (saved cs).project 10 0 []
    (opened twins).document.ids = [1, 2] ∧ pageOf (saved twins) ≠ (opened twins).html ∧
      (opened last).document.ids = [1] ∧ pageOf (saved last) ≠ (opened last).html := by
  intro twins last opened
  have htwins : ∀ c ∈ twins, c.id ≤ maxWord ∧ c.data = [] := by decide
  have hlast : ∀ c ∈ last, c.id ≤ maxWord ∧ c.data = [] := by decide
  have hids : (opened twins).document.ids = [1, 2] := by
    rw [document_saved htwins]
    decide
  have hanew : (opened last).document.ids = [1] := by
    rw [document_saved hlast]
    exact Document.ids_ofComponents_of_lt 10 (by decide)
  refine ⟨hids, fun hsame => ?_, hanew, fun hsame => ?_⟩
  · have hkept := (pageOf_eq_iff (saved twins) 10 0 []).mp hsame
    rw [components_saved htwins, hids] at hkept
    exact absurd (hkept 1 ⟨1, "countdown", []⟩ rfl (by decide)) (by decide)
  · have hkept := (pageOf_eq_iff (saved last) 10 0 []).mp hsame
    rw [components_saved hlast, hanew] at hkept
    exact absurd (hkept 0 ⟨maxWord, "countdown", []⟩ rfl (by decide)) (by decide)

end Site

end PageBuilder
