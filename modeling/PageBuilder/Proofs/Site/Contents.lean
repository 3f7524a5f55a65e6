import PageBuilder.Proofs.Project.Opening
import PageBuilder.Proofs.Site.Limits

/-!
# Saved contents

A save is accepted by the number of items in its content, and not by what these are.  So a content
that was saved is a list with as many items as were counted, but the project opens with it only if
all of them are components (`Site.content_of_put`).
-/

namespace PageBuilder

open Json

/-- No refusal has the status of a success. -/
theorem Refusal.status_ne_ok (r : Refusal) : r.status ≠ .ok := by
  cases r with
  | failed e => cases e <;> nofun
  | _ => nofun

theorem Response.ok_of_ofResult {α : Type} {write : α → Json} {result : Except Refusal α}
    (h : (ofResult write result).status = .ok) : ∃ a, result = .ok a := by
  cases result with
  | ok a => exact ⟨a, rfl⟩
  | error r => exact absurd h r.status_ne_ok

theorem Request.status_ne_ok_of_json {α : Type} {r : Request} {shape : Shape α} {status : Status}
    (h : r.json shape = .error status) : status ≠ .ok := by
  rw [json] at h
  split at h
  · split at h <;> cases h <;> nofun
  · cases h
    nofun

namespace Site

variable {s s' : Site} {o : Occasion} {r : Request} {piece : String}

/-! ## Requests to save -/

/-- A request to save a project that is answered with success is a save. -/
theorem save_of_put (hroute : Route.ofTarget? r.target = some (.project piece))
    (hput : r.method = .put) (hok : (s.respond o r).1.status = .ok) :
    ∃ id u, Route.id? piece = some id ∧ r.json Project.Update.shape = .ok u ∧
      s.save o id u = (.ok (), (s.respond o r).2) := by
  have hrespond : s.respond o r = s.carryOut o r (.project piece) := by
    simp [respond, hroute, Route.methods, hput]
  rw [hrespond] at hok ⊢
  rw [carryOut, withId] at hok ⊢
  cases hid : Route.id? piece with
  | none =>
      rw [hid] at hok
      cases hok
  | some id =>
      simp only [hid, hput, withJson] at hok ⊢
      cases hjson : r.json Project.Update.shape with
      | error status =>
          rw [hjson] at hok
          exact absurd hok (Request.status_ne_ok_of_json hjson)
      | ok u =>
          simp only [hjson] at hok ⊢
          obtain ⟨_, hsave⟩ := Response.ok_of_ofResult hok
          exact ⟨id, u, rfl, rfl, Prod.ext hsave rfl⟩

/-- What a save that was accepted keeps: a content that was counted, as it was sent. -/
theorem content_of_save {id : Nat} {u : Project.Update} {content : String}
    (hcontent : u.content = some content) (h : s.save o id u = (.ok (), s')) :
    (∃ n ≤ s.store.plan.componentLimit, Project.contentLength content = .ok n) ∧
      ∃ p, s'.store.get? id = some p ∧ p.record.content = some content := by
  rw [save] at h
  split at h
  next => cases h
  next hcheck =>
    cases hsave : s.store.save o id u with
    | mk result store =>
        cases result with
        | error e =>
            rw [hsave] at h
            cases h
        | ok p =>
            rw [hsave] at h
            cases h
            obtain ⟨hp, old, _, hrecord⟩ := Store.get?_of_save hsave
            refine ⟨count_of_checkUpdate hcheck hcontent, p, hp, ?_⟩
            rw [hrecord, Project.Record.apply, hcontent]
            rfl

theorem components_of_content {p : StoredProject} {content : String}
    (h : p.record.content = some content) :
    p.record.project.components = (Project.decodeContent (some content)).toOption.getD [] := by
  rw [Project.Record.project, h]

/-! ## What a saved content opens as -/

/-- Whatever a request to save a project sends as the content, if it is answered with success, then
that is kept as it was sent.  It is the text of a list; its items are as many as were counted, and
no more than the plan allows.  If each of these is a component, the content is read as just as many
components, and the project opens with these, also in its preview and its export.  If one is not,
the content is refused as malformed wherever it is read, and the project opens as an empty page. -/
theorem content_of_put (hroute : Route.ofTarget? r.target = some (.project piece))
    (hput : r.method = .put) (hok : (s.respond o r).1.status = .ok) :
    ∃ id u, Route.id? piece = some id ∧ r.json Project.Update.shape = .ok u ∧
      ∀ content, u.content = some content →
        ∃ (items : List Draft) (p : StoredProject) (cs : List Component),
          Draft.ofText content = (.list items true, true) ∧
          Project.contentLength content = .ok items.length ∧
          items.length ≤ s.store.plan.componentLimit ∧
          (s.respond o r).2.store.get? id = some p ∧
          p.record.content = some content ∧
          p.record.project.components = cs ∧
          (s.respond o r).2.preview? id = some (Page.html cs p.record.project.settings) ∧
          (s.respond o r).2.exportPage id "html" =
            .ok (Page.html cs p.record.project.settings) ∧
          ((∀ d ∈ items, d.isComponent = true) →
            Project.decodeContent (some content) = .ok cs ∧ cs.length = items.length) ∧
          ((∃ d ∈ items, d.isComponent = false) →
            Project.decodeContent (some content) = .error (.malformedState .content) ∧
              cs = []) := by
  obtain ⟨id, u, hid, hjson, hsave⟩ := save_of_put hroute hput hok
  refine ⟨id, u, hid, hjson, fun content hcontent => ?_⟩
  obtain ⟨⟨n, hlimit, hcount⟩, p, hp, hkept⟩ := content_of_save hcontent hsave
  obtain ⟨items, htext, rfl, hsound⟩ := Project.items_of_contentLength hcount
  have hopened := components_of_content hkept
  refine ⟨items, p, p.record.project.components, htext, hcount, hlimit, hp, hkept, rfl, ?_, ?_,
    fun hall => ?_, fun hone => ?_⟩
  · rw [preview?, hp]
    rfl
  · rw [exportPage, record, hp]
    rfl
  · obtain ⟨cs, hcs, hlength⟩ := Project.decodeContent_of_forall htext hsound hall
    rw [hopened, hcs]
    exact ⟨rfl, hlength⟩
  · have hclosed := Project.decodeContent_of_exists htext hsound hone
    rw [hopened, hclosed]
    exact ⟨rfl, rfl⟩

/-- A site of the free plan with one project that was just created. -/
def furnished : Site :=
  ((start .free none 0 "uploads").perform ⟨"2026-01-01T00:00:00Z", "a", true⟩ (.create "Shop")).2

/-- A request to save that project with a content. -/
def contentRequest (content : String) : Request :=
  { method := .put
    target := "/api/projects/1"
    contentType := some "application/json"
    body := (Project.Update.toJson ⟨none, some content, none⟩).compact }

/-- Whether a draft is a list of components. -/
def isPage : Draft → Bool
  | .list items _ => items.all Draft.isComponent
  | _ => false

/-- Two components are saved, of which one is written as a list, and the project opens with them. -/
theorem content_of_put_pair :
    let content := "[\x7b\"id\":1,\"type\":\"hero\"\x7d,[2,\"text\"]]"
    let r := contentRequest content
    let o : Occasion := ⟨"2026-01-01T00:00:01Z", "b", true⟩
    Route.ofTarget? r.target = some (.project "1") ∧ r.method = .put ∧
      (furnished.respond o r).1.status = .ok ∧
      ∃ cs, Project.decodeContent (some content) = .ok cs ∧ cs.length = 2 ∧
        (furnished.respond o r).2.preview? 1 = some (Page.html cs {}) := by
  intro content r o
  have hroute : Route.ofTarget? r.target = some (.project "1") := by decide +kernel
  have hok : (furnished.respond o r).1.status = .ok := by decide +kernel
  have hid : Route.id? "1" = some 1 := by decide +kernel
  have hbody : (r.json Project.Update.shape).toOption = some ⟨none, some content, none⟩ := by
    decide +kernel
  have hpage : isPage (Draft.ofText content).1 = true := by decide +kernel
  have htwo : (Project.contentLength content).toOption = some 2 := by decide +kernel
  have hsettings : ((furnished.respond o r).2.store.get? 1).map (·.record.settings) =
      some none := by
    decide +kernel
  obtain ⟨id, u, hid', hu, hcontent⟩ := content_of_put hroute rfl hok
  rw [hid] at hid'
  cases hid'
  rw [hu] at hbody
  cases hbody
  obtain ⟨items, p, cs, htext, hcount, _, hp, _, rfl, hpreview, _, hall, _⟩ :=
    hcontent content rfl
  rw [htext] at hpage
  rw [hcount] at htwo
  obtain ⟨hread, hlength⟩ := hall (List.all_eq_true.mp hpage)
  rw [hp] at hsettings
  have hnone : p.record.settings = none := Option.some.inj hsettings
  have hdefault : p.record.project.settings = {} := by
    rw [Project.Record.project, hnone]
    rfl
  rw [hdefault] at hpreview
  exact ⟨hroute, rfl, hok, _, hread, hlength.trans (Option.some.inj htwo), hpreview⟩

/-- A save is accepted whose content has two items and cannot be read. -/
theorem put_of_unreadable_content :
    let content := "[\x7b\"id\":1,\"type\":\"hero\"\x7d,7]"
    let o : Occasion := ⟨"2026-01-01T00:00:01Z", "b", true⟩
    let answer := furnished.respond o (contentRequest content)
    answer.1.status = .ok ∧
      answer.2.store.records.map (fun r => (r.content, r.project.components.length)) =
        [(some content, 0)] ∧
      (Project.contentLength content).toOption = some 2 ∧
      (Project.decodeContent (some content)).toOption.isNone = true := by
  decide +kernel

end Site

end PageBuilder
