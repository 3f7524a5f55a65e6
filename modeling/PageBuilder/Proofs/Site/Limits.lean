import Mathlib.Data.List.Basic
import PageBuilder.Proofs.Project.Content
import PageBuilder.Proofs.Site.Projects
import PageBuilder.Proofs.Text.Trim
import PageBuilder.Site.Server

/-!
# The limits of a site

A site without a disk keeps the limits of its plan, whatever it is asked to do with its projects
and in whatever order (`Site.limits_of_calls`): there are at most as many projects as the plan
allows, each opens with at most as many components as the plan allows, and its name is trimmed.
A new project gets an id that is not in use, a call about one project leaves all others alone, what
an update leaves out is kept, and a call that is refused changes nothing.

`Site.Does` says all that a call can do; `Site.Kept` is what every call keeps (`Site.kept_perform`).
The ids that are in use never exceed the number of projects created so far, which is why the next
id does not run over.

Over the wire nothing else happens to the projects: a request, whatever its path and its body, does
to them what a call does, or nothing (`Site.calls_respond`).  So what calls keep is kept by any
requests (`Site.kept_serve`).
-/

namespace PageBuilder.Site

/-! ## Calls -/

/-- What a site may be asked about its projects. -/
inductive Call where
  | create (name : String)
  | save (id : Nat) (u : Project.Update)
  | get (id : Nat)
  | list
  | delete (id : Nat)

/-- Whether a call asks for a new project. -/
def Call.creates : Call → Bool
  | .create _ => true
  | _ => false

/-- The id that a call names. -/
def Call.id? : Call → Option Nat
  | .save id _ | .get id | .delete id => some id
  | .create _ | .list => none

/-- Carries out a call.  The answer holds the records it asks for or makes. -/
def perform (s : Site) (o : Occasion) : Call → Except Refusal (List Project.Record) × Site
  | .create name => ((s.create o name).1.map fun p => [p.record], (s.create o name).2)
  | .save id u => ((s.save o id u).1.map fun _ => [], (s.save o id u).2)
  | .get id => ((s.record id).map fun r => [r], s)
  | .list => (.ok s.store.records, s)
  | .delete id => ((s.delete o id).1.map fun _ => [], (s.delete o id).2)

/-- The site after some calls, each on its occasion. -/
def after (s : Site) : List (Occasion × Call) → Site
  | [] => s
  | (o, call) :: rest => after (s.perform o call).2 rest

/-- The site with other projects. -/
def withProjects (s : Site) (projects : List (Nat × StoredProject)) : Site :=
  { s with store := s.store.withProjects projects }

/-- What a call can do to a site without a disk. -/
inductive Does (s : Site) : Call → Except Refusal (List Project.Record) × Site → Prop
  | refused (call : Call) (refusal : Refusal) : Does s call (.error refusal, s)
  | got (id : Nat) (r : Project.Record) : Does s (.get id) (.ok [r], s)
  | listed : Does s .list (.ok s.store.records, s)
  | created (name : String) (p : StoredProject)
      (room : s.store.projects.length < s.store.plan.projectLimit)
      (fresh : p.record = .new s.store.nextId name) :
      Does s (.create name)
        (.ok [p.record], s.withProjects (Store.insertAt s.store.nextId p s.store.projects))
  | saved (id : Nat) (u : Project.Update) (old p : StoredProject)
      (checked : checkUpdate s.store.plan u = .ok ()) (found : s.store.get? id = some old)
      (applied : p.record = old.record.apply u) :
      Does s (.save id u) (.ok [], s.withProjects (Store.insertAt id p s.store.projects))
  | deleted (id : Nat) (old : StoredProject) (found : s.store.get? id = some old) :
      Does s (.delete id) (.ok [], s.withProjects (s.store.projects.filter (·.1 != id)))

variable {s : Site} {o : Occasion} {plan : Plan} {n : Nat}

theorem does_perform (h : s.store.disk = none) (o : Occasion) (call : Call) :
    Does s call (s.perform o call) := by
  cases call with
  | create name =>
      obtain ⟨_, hcreate⟩ | ⟨hroom, p, hp, hcreate⟩ := Store.create_cases (o := o) h name
      · rw [perform, create, hcreate]
        exact .refused _ _
      · rw [perform, create, hcreate]
        exact .created name p hroom hp
  | save id u =>
      cases hcheck : checkUpdate s.store.plan u with
      | error refusal =>
          rw [perform, save, hcheck]
          exact .refused _ _
      | ok _ =>
          obtain ⟨_, hsave⟩ | ⟨old, p, hold, hp, hsave⟩ := Store.save_cases (o := o) h id u
          · rw [perform, save, hcheck, hsave]
            exact .refused _ _
          · rw [perform, save, hcheck, hsave]
            exact .saved id u old p hcheck hold hp
  | get id =>
      rw [perform, record]
      cases s.store.get? id with
      | none => exact .refused _ _
      | some p => exact .got id p.record
  | list => exact .listed
  | delete id =>
      obtain ⟨_, hdelete⟩ | ⟨old, hold, hdelete⟩ := Store.delete_cases (o := o) h id
      · rw [perform, delete, hdelete]
        exact .refused _ _
      · rw [perform, delete, hdelete]
        exact .deleted id old hold

/-! ## What calls leave alone -/

/-- A call that is refused changes nothing. -/
theorem Does.eq_of_error {call : Call} {refusal : Refusal} {s' : Site}
    (h : Does s call (.error refusal, s')) : s' = s := by
  cases h
  rfl

/-- A call about one project leaves all others alone. -/
theorem Does.get?_of_ne {call : Call} {next : Except Refusal (List Project.Record) × Site}
    (h : Does s call next) {id other : Nat} (hid : call.id? = some id) (hne : other ≠ id) :
    next.2.store.get? other = s.store.get? other := by
  cases h with
  | refused | got | listed => rfl
  | created => cases hid
  | saved =>
      cases hid
      exact Store.lookup_insertAt_of_ne hne
  | deleted =>
      cases hid
      exact Store.lookup_filter_of_ne hne

/-- What an update leaves out is kept. -/
theorem Does.of_saved {id : Nat} {u : Project.Update} {records : List Project.Record} {s' : Site}
    (h : Does s (.save id u) (.ok records, s')) :
    ∃ old new : StoredProject, s.store.get? id = some old ∧ s'.store.get? id = some new ∧
      (u.name = none → new.record.name = old.record.name) ∧
      (u.content = none → new.record.content = old.record.content) ∧
      (u.settings = none → new.record.settings = old.record.settings) := by
  cases h with
  | saved _ _ old p _ hold hp =>
      refine ⟨old, p, hold, Store.lookup_insertAt_self, ?_, ?_, ?_⟩
      all_goals
        intro hnone
        simp [hp, Project.Record.apply, hnone]

/-! ## What every call keeps -/

/-- A project as it is kept at an id. -/
structure Sound (plan : Plan) (id : Nat) (p : StoredProject) : Prop where
  own : p.record.id = id
  trimmed : Text.trim p.record.name = p.record.name
  limited : p.record.project.components.length ≤ plan.componentLimit

/-- What a site without a disk keeps, after `n` calls for a new project. -/
structure Kept (plan : Plan) (n : Nat) (s : Site) : Prop where
  memory : s.store.disk = none
  planned : s.store.plan = plan
  increasing : Store.Increasing s.store.projects
  issued : ∀ e ∈ s.store.projects, e.1 ≤ n
  sound : ∀ e ∈ s.store.projects, Sound plan e.1 e.2
  count : s.store.projects.length ≤ plan.projectLimit

theorem Kept.mono {m : Nat} (h : Kept plan n s) (hle : n ≤ m) : Kept plan m s :=
  { h with issued := fun e he => Nat.le_trans (h.issued e he) hle }

theorem kept_start (plan : Plan) (booted : Nat) (folder : String) :
    Kept plan 0 (start plan none booted folder) where
  memory := rfl
  planned := rfl
  increasing := List.Pairwise.nil
  issued := List.forall_mem_nil _
  sound := List.forall_mem_nil _
  count := Nat.zero_le _

theorem sound_new (id : Nat) (name : String) {p : StoredProject} (h : p.record = .new id name) :
    Sound plan id p where
  own := by rw [h, Project.Record.new]
  trimmed := by
    rw [h, Project.Record.new]
    have hdefault : Text.trim Project.defaultName = Project.defaultName := by decide +kernel
    split
    · exact hdefault
    · exact Text.trim_trim name
  limited := by
    rw [h]
    exact Nat.zero_le _

/-- An update with a content has at most as many items as the plan allows. -/
theorem count_of_checkUpdate {u : Project.Update} {content : String}
    (h : checkUpdate plan u = .ok ()) (hcontent : u.content = some content) :
    ∃ k ≤ plan.componentLimit, Project.contentLength content = .ok k := by
  rw [checkUpdate, hcontent] at h
  cases hcount : Project.contentLength content with
  | error e => simp only [hcount] at h; cases h
  | ok k =>
      simp only [hcount] at h
      obtain ⟨k', hk, h⟩ := bind_eq_ok h
      cases hk
      split at h
      · cases h
      next hle => exact ⟨k, Nat.le_of_not_lt hle, rfl⟩

theorem Sound.apply {id : Nat} {old p : StoredProject} {u : Project.Update}
    (h : Sound plan id old) (hcheck : checkUpdate plan u = .ok ())
    (hp : p.record = old.record.apply u) : Sound plan id p where
  own := by
    rw [hp]
    exact h.own
  trimmed := by
    rw [hp, Project.Record.apply]
    cases u.name with
    | none => exact h.trimmed
    | some name => exact Text.trim_trim name
  limited := by
    rw [hp]
    cases hcontent : u.content with
    | none =>
        have hsame : (old.record.apply u).project.components = old.record.project.components := by
          simp [Project.Record.project, Project.Record.apply, hcontent]
        rw [hsame]
        exact h.limited
    | some content =>
        obtain ⟨k, hk, hcount⟩ := count_of_checkUpdate hcheck hcontent
        have hnew : (old.record.apply u).content = some content := by
          simp [Project.Record.apply, hcontent]
        exact Nat.le_trans (Project.Record.length_components hnew hcount) hk

/-- Every id in use is less than the next one. -/
theorem Kept.lt_nextId (h : Kept plan n s) (hn : n < maxWord) :
    ∀ e ∈ s.store.projects, e.1 < s.store.nextId :=
  Store.lt_nextId h.increasing fun e he => Nat.lt_of_le_of_lt (h.issued e he) hn

theorem Kept.insertAt (h : Kept plan n s) {id : Nat} {p : StoredProject} (hid : id ≤ n)
    (hp : Sound plan id p)
    (hcount : (Store.insertAt id p s.store.projects).length ≤ plan.projectLimit) :
    Kept plan n (s.withProjects (Store.insertAt id p s.store.projects)) where
  memory := h.memory
  planned := h.planned
  increasing := h.increasing.insertAt
  issued := by
    intro e he
    obtain rfl | he := Store.mem_insertAt he
    · exact hid
    · exact h.issued e he
  sound := by
    intro e he
    obtain rfl | he := Store.mem_insertAt he
    · exact hp
    · exact h.sound e he
  count := hcount

theorem Kept.filter (h : Kept plan n s) (id : Nat) :
    Kept plan n (s.withProjects (s.store.projects.filter (·.1 != id))) where
  memory := h.memory
  planned := h.planned
  increasing := List.Pairwise.sublist List.filter_sublist h.increasing
  issued := fun e he => h.issued e (List.mem_of_mem_filter he)
  sound := fun e he => h.sound e (List.mem_of_mem_filter he)
  count := Nat.le_trans (List.length_filter_le _ _) h.count

theorem kept_perform (h : Kept plan n s) (o : Occasion) (call : Call) :
    Kept plan (n + call.creates.toNat) (s.perform o call).2 := by
  have hdoes := does_perform h.memory o call
  generalize s.perform o call = next at hdoes
  cases hdoes with
  | refused | got | listed => exact h.mono (Nat.le_add_right _ _)
  | created name p hroom hp =>
      rw [h.planned] at hroom
      exact (h.mono (Nat.le_succ n)).insertAt (Store.nextId_le h.issued) (sound_new _ name hp)
        (Nat.le_trans Store.length_insertAt_le hroom)
  | saved id u old p hcheck hold hp =>
      have hmem := Store.mem_of_lookup hold
      have hlength := Store.length_insertAt_of_mem (p := p) h.increasing
        (List.mem_map.mpr ⟨_, hmem, rfl⟩)
      rw [h.planned] at hcheck
      exact h.insertAt (h.issued _ hmem) ((h.sound _ hmem).apply hcheck hp) (hlength ▸ h.count)
  | deleted id => exact h.filter id

theorem kept_after (calls : List (Occasion × Call)) : ∀ {n : Nat} {s : Site}, Kept plan n s →
    Kept plan (n + calls.countP (·.2.creates)) (s.after calls) := by
  induction calls with
  | nil => exact fun h => h
  | cons first rest ih =>
      intro n s h
      obtain ⟨o, call⟩ := first
      have hrest := ih (kept_perform h o call)
      rw [List.countP_cons, Nat.add_comm (rest.countP _), ← Nat.add_assoc]
      cases call <;> exact hrest

/-- A new project gets an id that is not in use, and leaves all other projects alone. -/
theorem Kept.of_created (h : Kept plan n s) (hn : n < maxWord) {name : String}
    {records : List Project.Record} {s' : Site} (hdoes : Does s (.create name) (.ok records, s')) :
    ∃ r : Project.Record, records = [r] ∧ s.store.get? r.id = none ∧
      (s'.store.get? r.id).map (·.record) = some r ∧
      ∀ other, other ≠ r.id → s'.store.get? other = s.store.get? other := by
  cases hdoes with
  | created _ p _ hp =>
      have hid : p.record.id = s.store.nextId := by rw [hp, Project.Record.new]
      refine ⟨p.record, rfl, ?_, ?_, ?_⟩
      · rw [hid]
        exact Store.lookup_eq_none fun e he => Nat.ne_of_lt (h.lt_nextId hn e he)
      · have hnew : (Store.insertAt s.store.nextId p s.store.projects).lookup p.record.id =
            some p := by
          rw [hid]
          exact Store.lookup_insertAt_self
        exact congrArg (Option.map (·.record)) hnew
      · intro other hne
        rw [hid] at hne
        exact Store.lookup_insertAt_of_ne hne

/-! ## The limits -/

/-- A site that starts without projects and without a disk, after any calls of which less than
2^64 - 1 ask for a new project.  No two projects have one id, each is kept under its own, there are
no more than the plan allows, and none opens with more components than the plan allows or has a
name that is not trimmed.  Whatever the next call is: if it is refused, it changes nothing; if it
makes a project, the id of that was not in use; if it names an id, the projects at all other ids
stay as they were; and if it is an update, what that leaves out is kept. -/
theorem limits_of_calls (plan : Plan) (booted : Nat) (folder : String)
    (calls : List (Occasion × Call)) (hcreated : calls.countP (·.2.creates) < maxWord) :
    let s := (start plan none booted folder).after calls
    (s.store.projects.map (·.1)).Nodup ∧
    s.store.projects.length ≤ plan.projectLimit ∧
    (∀ e ∈ s.store.projects, e.2.record.id = e.1 ∧
      e.2.record.project.components.length ≤ plan.componentLimit ∧
      Text.trim e.2.record.name = e.2.record.name) ∧
    ∀ (o : Occasion) (call : Call) (result : Except Refusal (List Project.Record)) (s' : Site),
      s.perform o call = (result, s') →
      (∀ refusal, result = .error refusal → s' = s) ∧
      (∀ name records, call = .create name → result = .ok records →
        ∃ r : Project.Record, records = [r] ∧ s.store.get? r.id = none ∧
          (s'.store.get? r.id).map (·.record) = some r ∧
          ∀ other, other ≠ r.id → s'.store.get? other = s.store.get? other) ∧
      (∀ id, call.id? = some id → ∀ other, other ≠ id →
        s'.store.get? other = s.store.get? other) ∧
      (∀ id u records, call = .save id u → result = .ok records →
        ∃ old new : StoredProject, s.store.get? id = some old ∧ s'.store.get? id = some new ∧
          (u.name = none → new.record.name = old.record.name) ∧
          (u.content = none → new.record.content = old.record.content) ∧
          (u.settings = none → new.record.settings = old.record.settings)) := by
  intro s
  have hkept : Kept plan (calls.countP (·.2.creates)) s := by
    have h := kept_after calls (kept_start plan booted folder)
    rwa [Nat.zero_add] at h
  refine ⟨hkept.increasing.nodup, hkept.count, fun e he => ?_, fun o call result s' hcall => ?_⟩
  · exact ⟨(hkept.sound e he).own, (hkept.sound e he).limited, (hkept.sound e he).trimmed⟩
  · have hdoes : Does s call (result, s') := hcall ▸ does_perform hkept.memory o call
    refine ⟨?_, ?_, fun id hid other hne => hdoes.get?_of_ne hid hne, ?_⟩
    · rintro refusal rfl
      exact hdoes.eq_of_error
    · rintro name records rfl rfl
      exact hkept.of_created hcreated hdoes
    · rintro id u records rfl rfl
      exact hdoes.of_saved

/-- Three projects are created and the first is saved with two components, the second is deleted,
and another one is created. -/
def busy : List (Occasion × Call) :=
  let o : Occasion := ⟨"2026-01-01T00:00:00Z", "a", true⟩
  [(o, .create "Blog"), (o, .create ""), (o, .create "Shop"),
    (o, .save 1 ⟨some " Notes ", some "[\x7b\"id\":1,\"type\":\"hero\"\x7d,[]]", none⟩),
    (o, .delete 2), (o, .create "Late")]

/-- After that the free plan is used up: what asks for one more is refused and changes nothing. -/
theorem limits_of_calls_busy :
    busy.countP (·.2.creates) < maxWord ∧
      let s := (start .free none 0 "uploads").after busy
      s.store.projects.map (fun e => (e.1, e.2.record.name)) =
        [(1, "Notes"), (3, "Shop"), (4, "Late")] ∧
      (s.store.projects.map (·.1)).Nodup ∧ s.store.projects.length ≤ 3 ∧
      ∀ o name, (s.perform o (.create name)).2 = s := by
  have hcreated : busy.countP (·.2.creates) < maxWord := by decide +kernel
  have hnames : ((start .free none 0 "uploads").after busy).store.projects.map
      (fun e => (e.1, e.2.record.name)) = [(1, "Notes"), (3, "Shop"), (4, "Late")] := by
    decide +kernel
  have hfull : ((start .free none 0 "uploads").after busy).store.plan.projectLimit ≤
      ((start .free none 0 "uploads").after busy).store.projects.length := by decide +kernel
  obtain ⟨hnodup, hcount, _, hcall⟩ := limits_of_calls .free 0 "uploads" busy hcreated
  generalize (start .free none 0 "uploads").after busy = s at *
  refine ⟨hcreated, hnames, hnodup, hcount, fun o name => ?_⟩
  have hrefused : (s.perform o (.create name)).1 = .error .tooManyProjects := by
    rw [perform, create, Store.create, if_pos hfull]
    rfl
  exact (hcall o (.create name) _ _ rfl).1 _ hrefused

/-! ## Requests -/

/-- The projects of a site as they were, or as a call leaves them. -/
def Calls (s : Site) (o : Occasion) (s' : Site) : Prop :=
  s'.store = s.store ∨ ∃ call, s'.store = (s.perform o call).2.store

theorem Calls.refl : Calls s o s := .inl rfl

theorem calls_withJson {α : Type} {r : Request} {shape : Json.Shape α} {next : α → Response × Site}
    (h : ∀ a, Calls s o (next a).2) : Calls s o (s.withJson r shape next).2 := by
  rw [withJson]
  split
  next a _ => exact h a
  next => exact .refl

theorem calls_withId {piece : String} {next : Nat → Response × Site}
    (h : ∀ id, Calls s o (next id).2) : Calls s o (s.withId piece next).2 := by
  rw [withId]
  split
  next id _ => exact h id
  next => exact .refl

theorem store_upload (form : FormData) : (s.upload o form).2.store = s.store := by
  simp only [upload]
  split <;> rfl

theorem calls_carryOut (r : Request) (route : Route) : Calls s o (s.carryOut o r route).2 := by
  cases route with
  | index | uploaded | palette | template => exact .refl
  | preview id => exact calls_withId fun _ => .refl
  | projects =>
      rw [carryOut]
      split
      · exact calls_withJson fun name => .inr ⟨.create name, rfl⟩
      · exact .refl
  | project id =>
      refine calls_withId fun id => ?_
      cases r.method with
      | put => exact calls_withJson fun u => .inr ⟨.save id u, rfl⟩
      | delete => exact .inr ⟨.delete id, rfl⟩
      | _ => exact .refl
  | exported id format =>
      refine calls_withId fun id => ?_
      split <;> exact .refl
  | upload =>
      rw [carryOut]
      split
      · exact .refl
      · exact .inl (store_upload _)
  | canvas => exact calls_withJson fun _ => .refl
  | form => exact calls_withJson fun _ => .refl

theorem calls_respond (r : Request) : Calls s o (s.respond o r).2 := by
  rw [respond]
  split
  · exact .refl
  next route _ =>
    have h := calls_carryOut (s := s) (o := o) r route
    split
    · generalize s.carryOut o r route = answer at h
      obtain ⟨response, s'⟩ := answer
      dsimp only
      split <;> exact h
    · exact .refl

/-- The site after some requests, each on its occasion. -/
def serve (s : Site) : List (Occasion × Request) → Site
  | [] => s
  | (o, r) :: rest => serve (s.respond o r).2 rest

theorem Kept.of_store_eq {s' : Site} (h : Kept plan n s) (heq : s'.store = s.store) :
    Kept plan n s' where
  memory := heq ▸ h.memory
  planned := heq ▸ h.planned
  increasing := heq ▸ h.increasing
  issued := heq ▸ h.issued
  sound := heq ▸ h.sound
  count := heq ▸ h.count

theorem kept_respond (h : Kept plan n s) (o : Occasion) (r : Request) :
    Kept plan (n + 1) (s.respond o r).2 := by
  obtain heq | ⟨call, heq⟩ := calls_respond (s := s) (o := o) r
  · exact (h.mono (Nat.le_succ n)).of_store_eq heq
  · have hle : n + call.creates.toNat ≤ n + 1 := Nat.add_le_add_left (Bool.toNat_le _) n
    exact ((kept_perform h o call).mono hle).of_store_eq heq

/-- The limits are kept over any requests that a site without a disk is sent. -/
theorem kept_serve (requests : List (Occasion × Request)) : ∀ {n : Nat} {s : Site},
    Kept plan n s → Kept plan (n + requests.length) (s.serve requests) := by
  induction requests with
  | nil => exact fun h => h
  | cons first rest ih =>
      intro n s h
      have hrest := ih (kept_respond h first.1 first.2)
      rwa [Nat.add_assoc, Nat.add_comm 1] at hrest

end PageBuilder.Site
