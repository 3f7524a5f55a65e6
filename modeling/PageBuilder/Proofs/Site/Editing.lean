import PageBuilder.Proofs.Catalog.Values
import PageBuilder.Proofs.Document.Independence
import PageBuilder.Proofs.Document.Loading
import PageBuilder.Proofs.Project.Content
import PageBuilder.Site.Server

/-!
# Editing by request

A site makes the form of a component that it is sent, and carries out an edit of it before.  To do
so it puts the component on a page of its own.  What the edit comes to there is what it comes to on
any other page that has the component, since an edit works on the component alone
(`Document.WorksOn`).  So the answer is that of the edit on the page the component comes from
(`Site.form_of_edit`).

This needs that the page of its own leaves the component its id.  It does not if the id is one of
the last two words: then the component is numbered anew and cannot be found under the id that was
sent (`Site.editedForm_of_full`).
-/

namespace PageBuilder

open Document (ofComponents)
open Json

namespace Site

variable {c : Component} {k : Kind} {change : Edit}

/-! ## A page of its own -/

theorem maxId_singleton (c : Component) : Document.maxId [c] = c.id := by simp [Document.maxId]

/-- With room for another id the component is put on the page as it is. -/
theorem page_of_room (hroom : c.id + 2 ≤ maxWord) :
    (ofComponents [c] 1).components = [c] := by
  rw [← maxId_singleton c] at hroom
  exact Document.components_ofComponents 1 hroom (List.nodup_singleton _)

/-- Without room for another id the component is numbered anew. -/
theorem page_of_full (hfull : maxWord < c.id + 2) :
    (ofComponents [c] 1).components = [{ c with id := 1 }] := by
  rw [← maxId_singleton c] at hfull
  rw [Document.ofComponents_of_lt 1 hfull]
  rfl

theorem editedForm_none {c' : Component} (hpage : (ofComponents [c] 1).components = [c'])
    (hkind : c'.kind? = some k) :
    editedForm c none = .ok (c', .of k c'.id c'.data) := by
  simp [editedForm, hpage, Form.of?, hkind]

/-- An edit that works on what is found under an id changes the component that is alone on its
page. -/
theorem editedForm_some {f : Option Component → Except Error (Unit × Object)}
    (hroom : c.id + 2 ≤ maxWord) (hkind : c.kind? = some k)
    (hf : ∀ d, change.apply d c.id = d.onComponent c.id f) :
    editedForm c (some change) =
      (f (some c)).map fun r => ({ c with data := r.2 }, .of k c.id r.2) := by
  have hpage := page_of_room hroom
  have hfound : (ofComponents [c] 1).get? c.id = some c := by
    rw [Document.get?, hpage]
    simp
  simp only [editedForm, hf, Document.onComponent, hfound]
  cases f (some c) with
  | error e => rfl
  | ok r =>
      have hchanged : ((ofComponents [c] 1).withData c.id r.2).components =
          [{ c with data := r.2 }] := by
        simp [Document.withData, hpage, Document.replaceData]
      have hform : Form.of? { c with data := r.2 } = some (.of k c.id r.2) := by
        rw [Form.of?, show Component.kind? { c with data := r.2 } = some k from hkind]
        rfl
      simp only [Except.map, ok_bind, hchanged, List.getLast?_singleton, hform]

/-! ## The same edit on another page -/

/-- The edit fails on the page of its own exactly as it fails on any page that has the component,
and otherwise leaves the component there as it leaves it here. -/
theorem editedForm_agrees (hroom : c.id + 2 ≤ maxWord) (hkind : c.kind? = some k) {d : Document}
    (hd : d.get? c.id = some c) :
    (∀ e, editedForm c (some change) = .error e ↔ (change.apply d c.id).1 = .error e) ∧
      ((change.apply d c.id).1 = .ok () → ∃ data,
        (change.apply d c.id).2.get? c.id = some { c with data } ∧
        editedForm c (some change) = .ok ({ c with data }, .of k c.id data)) := by
  obtain ⟨f, hf⟩ := (Document.FieldOperation.edit change).worksOn
  have hf : ∀ d, change.apply d c.id = d.onComponent c.id f := hf
  rw [editedForm_some hroom hkind hf, hf, Document.onComponent, hd]
  cases f (some c) with
  | error e =>
      refine ⟨fun error => ?_, fun hok => by cases hok⟩
      simp [Except.map]
  | ok r =>
      refine ⟨fun error => by simp [Except.map], fun _ => ⟨r.2, ?_, rfl⟩⟩
      exact Document.get?_withData hd r.2

/-! ## Ids without room -/

/-- Under one of the last two words as its id no edit of a component can be carried out. -/
theorem editedForm_of_full (hfull : maxWord < c.id + 2) :
    ∃ e, editedForm c (some change) = .error e := by
  have hpage := page_of_full hfull
  have hmissing : (ofComponents [c] 1).get? c.id = none := by
    have hne : c.id ≠ 1 := by
      have : 1 + 2 < maxWord := by decide
      omega
    simp [Document.get?, hpage, hne.symm]
  obtain ⟨e, he⟩ := Edit.error_of_missing change hmissing
  exact ⟨e, by simp only [editedForm, he, Except.map, error_bind]⟩

/-! ## Requests for a form -/

theorem respond_of_form {s : Site} {o : Occasion} {r : Request} {edit : Option Edit}
    (hroute : Route.ofTarget? r.target = some .form) (hpost : r.method = .post)
    (hjson : r.json Body.edited = .ok (c, edit)) : s.respond o r = (formResponse c edit, s) := by
  simp [respond, hroute, Route.methods, hpost, carryOut, withJson, hjson]

/-- A request for the form of a component of a known kind, with or without an edit, is answered
without any change of the site.  If the id leaves room for another one, the component comes back as
it was sent if there is no edit; and with an edit the request is refused with an error exactly if
the edit fails with that error on a page that has the component, and otherwise brings back the
component with the data that the edit leaves it there, and the form of these data. -/
theorem form_of_edit {s : Site} {o : Occasion} {r : Request} {edit : Option Edit}
    (hroute : Route.ofTarget? r.target = some .form) (hpost : r.method = .post)
    (hjson : r.json Body.edited = .ok (c, edit)) (hkind : c.kind? = some k) :
    s.respond o r = (formResponse c edit, s) ∧
    (c.id + 2 ≤ maxWord →
      (edit = none → editedForm c edit = .ok (c, .of k c.id c.data)) ∧
      ∀ change, edit = some change → ∀ d : Document, d.get? c.id = some c →
        (∀ e, editedForm c edit = .error e ↔ (change.apply d c.id).1 = .error e) ∧
        ((change.apply d c.id).1 = .ok () → ∃ data,
          (change.apply d c.id).2.get? c.id = some { c with data } ∧
          editedForm c edit = .ok ({ c with data }, .of k c.id data))) ∧
    (maxWord < c.id + 2 →
      (edit = none → editedForm c edit = .ok ({ c with id := 1 }, .of k 1 c.data)) ∧
      ∀ change, edit = some change → ∃ e, editedForm c edit = .error e) := by
  refine ⟨respond_of_form hroute hpost hjson, fun hroom => ⟨?_, ?_⟩, fun hfull => ⟨?_, ?_⟩⟩
  · rintro rfl
    exact editedForm_none (page_of_room hroom) hkind
  · rintro change rfl d hd
    exact editedForm_agrees hroom hkind hd
  · rintro rfl
    exact editedForm_none (page_of_full hfull) hkind
  · rintro change rfl
    exact editedForm_of_full hfull

/-- A request to edit a component. -/
def formRequest (c : Component) (change : Edit) : Request :=
  { method := .post
    target := "/api/schema"
    contentType := some "application/json"
    body := (Json.obj [("instance", c.toJson), ("edit", change.toJson)]).compact }

theorem draft_formRequest (hc : c.toJson.Numbers Number.Exact)
    (hchange : change.toJson.Numbers Number.Exact) :
    Draft.ofText (formRequest c change).body =
      (.ofJson (.obj [("instance", c.toJson), ("edit", change.toJson)]), true) :=
  ofText_of_tokens (tokens_compact ⟨hc, hchange, trivial⟩)

/-- The request is read back as the component and the edit, each of which lies one level below the
body. -/
theorem json_formRequest (hc : c.Encodable) (hdepth : c.depth ≤ 125)
    (hexact : change.toJson.Numbers Number.Exact)
    (hobject : ∃ entries, change.toJson = .obj entries)
    (hchange : Edit.shape 126 (.ofJson change.toJson) = .ok change) :
    (formRequest c change).json Body.edited = .ok (c, some change) := by
  have htype : ((formRequest c change).mediaType?.map MediaType.isJson).getD false = true := by
    show (((some "application/json").bind MediaType.parse?).map MediaType.isJson).getD false = true
    decide +kernel
  have hinstance : Component.shape 126 (.ofJson c.toJson) = .ok c := by
    rw [Component.shape_ofJson 125 hc, if_pos hdepth]
  have hedit : Shape.nullable Edit.shape 126 (.ofJson change.toJson) = .ok (some change) := by
    obtain ⟨entries, hentries⟩ := hobject
    rw [hentries] at hchange ⊢
    show (Edit.shape 126 _).map some = _
    rw [hchange]
    rfl
  have hbody : Body.edited maxDepth
        (.ofJson (.obj [("instance", c.toJson), ("edit", change.toJson)])) =
      .ok (c, some change) := by
    simp [Body.edited, Draft.ofJson, Draft.ofEntries, Shape.record, Shape.readEntries,
      Shape.required, Shape.optional, Shape.Found.get, Shape.Found.getD, Shape.Found.get?,
      List.lookup, maxDepth, hinstance, hedit]
  rw [Request.json, htype, if_pos rfl, draft_formRequest (Component.exact_toJson hc) hexact, hbody]

/-- A new tab after one that is no object, as on a page where another component stands before. -/
theorem form_of_edit_tabs :
    let c : Component := ⟨5, "tabs", [("tabs", .arr [.nat 7])]⟩
    let r := formRequest c (.append "tabs")
    let s := start .free none 0 "uploads"
    let o : Occasion := ⟨"2026-01-01T00:00:00Z", "a", true⟩
    let d := ofComponents [⟨4, "hero", []⟩, c] 1
    Route.ofTarget? r.target = some .form ∧ r.method = .post ∧
      r.json Body.edited = .ok (c, some (.append "tabs")) ∧ c.kind? = some .tabs ∧
      d.get? 5 = some c ∧
      s.respond o r = (formResponse c (some (.append "tabs")), s) ∧
      ∃ data, ((Edit.append "tabs").apply d 5).2.get? 5 = some { c with data } ∧
        editedForm c (some (.append "tabs")) = .ok ({ c with data }, .of .tabs 5 data) ∧
        (data.list "tabs").length = 2 := by
  intro c r s o d
  have hroute : Route.ofTarget? r.target = some .form := by decide +kernel
  have hc : c.Encodable :=
    { word := by decide
      ordered := ⟨List.pairwise_singleton _ _, ⟨⟨trivial, trivial⟩, trivial⟩⟩
      exact := ⟨⟨Number.exact_nat (by decide), trivial⟩, trivial⟩ }
  have hjson : r.json Body.edited = .ok (c, some (.append "tabs")) :=
    json_formRequest hc (by decide) ⟨trivial, trivial, trivial⟩ ⟨_, rfl⟩ rfl
  have hkind : c.kind? = some .tabs := by decide +kernel
  have hd : d.get? 5 = some c := by rfl
  have hlength : (((Edit.append "tabs").apply d 5).2.get? 5).map
      (fun c => (c.data.list "tabs").length) = some 2 := by
    decide +kernel
  obtain ⟨hrespond, hroom, _⟩ := form_of_edit hroute rfl hjson hkind
  obtain ⟨_, hok⟩ := (hroom (by decide)).2 _ rfl d hd
  obtain ⟨data, hdata, hform⟩ := hok (by decide +kernel)
  rw [hdata] at hlength
  exact ⟨hroute, rfl, hjson, hkind, hd, hrespond, data, hdata, hform, Option.some.inj hlength⟩

/-- A page whose last component has the last id but one. -/
def worn : Document := ((ofComponents [⟨maxWord - 2, "hero", []⟩] 10).add "separator").2

/-- The component of that page with the last id but one. -/
def rule : Component := ⟨maxWord - 1, "separator", Kind.template .separator⟩

/-- The width of the rule can be changed on its page, but not by a request, which is answered as if
there were no such component; and its form comes back with another id. -/
theorem refused_edit_of_last_id :
    let change := Edit.set "width" (.str "80%")
    let r := formRequest rule change
    let s := start .free none 0 "uploads"
    let o : Occasion := ⟨"2026-01-01T00:00:00Z", "a", true⟩
    Document.Reached worn ∧ worn.get? rule.id = some rule ∧
      rule.kind? = some .separator ∧ (change.apply worn rule.id).1 = .ok () ∧
      r.json Body.edited = .ok (rule, some change) ∧
      editedForm rule (some change) = .error (.notFound rule.id) ∧
      (s.respond o r).1.status = .notFound ∧
      editedForm rule none = .ok ({ rule with id := 1 }, .of .separator 1 rule.data) := by
  intro change r s o
  have hreached : Document.Reached worn :=
    .perform (.add "separator") (.ofComponents _ _ (by decide)) (by decide +kernel)
  have hkind : rule.kind? = some .separator := by decide +kernel
  have hrule : rule.Encodable :=
    { word := by decide
      ordered := (Kind.storable_template .separator).ordered
      exact := ⟨trivial, trivial, trivial, trivial, trivial, trivial⟩ }
  have hjson : r.json Body.edited = .ok (rule, some change) :=
    json_formRequest hrule (by decide) ⟨trivial, trivial, trivial, trivial⟩ ⟨_, rfl⟩ rfl
  have hmissing : editedForm rule (some change) = .error (.notFound rule.id) := by
    have hresult : (change.apply (ofComponents [rule] 1) rule.id).1 =
        .error (.notFound rule.id) := by
      decide +kernel
    simp only [editedForm, hresult, Except.map, error_bind]
  refine ⟨hreached, by rfl, hkind, by decide +kernel, hjson, hmissing, ?_, ?_⟩
  · rw [respond_of_form (by decide +kernel) rfl hjson, formResponse, hmissing]
    rfl
  · exact editedForm_none (page_of_full (by decide)) hkind

end Site

end PageBuilder
