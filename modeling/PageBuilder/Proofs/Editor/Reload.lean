import PageBuilder.Proofs.Document.Values
import PageBuilder.Proofs.Editor.Saves
import PageBuilder.Proofs.Project.Content

/-!
# What was saved is what is opened again

A project is opened, edited and flushed.  The record that the last save makes of the stored one has
the name and the settings of the editor, and opens as the very components of the editor, ids and
data included, if their data is not nested more than 125 deep (`reload_of_flush`).  If it is, the
text that was saved cannot be read, and the page opens empty.

The data of an editor is storable, and its ids are distinct, whatever was done to it
(`Kept`); both are needed, since objects that are not sorted and ids that are there twice do not
read back as they are.
-/

namespace PageBuilder

open Json (Storable)

/-- The values that an intent brings along are storable.  Those that are read from a text are. -/
def Intent.Storable : Intent → Prop
  | .patch _ _ value => value.Storable
  | .edit _ (.set _ value) => value.Storable
  | _ => True

theorem Intent.storable_operation {i : Intent} (h : i.Storable) {operation : Document.Operation}
    (hop : i.operation? = some operation) : operation.Storable := by
  cases i with
  | patch id path value => cases hop; exact h
  | edit id change =>
      cases hop
      cases change with
      | set path value => exact h
      | setCommaList path raw numeric => exact CommaList.storable_stored raw numeric
      | append | remove | setColumnCount => trivial
  | upload id path outcome =>
      cases outcome with
      | none => cases hop
      | some result =>
          cases result with
          | error e => cases hop
          | ok url => cases hop; exact Json.storable_str url
  | rename | setSettings => cases hop
  | add | move | remove | clear | select => cases hop; trivial

namespace Editor

/-- The values that an action brings along are storable. -/
def Action.Storable : Action → Prop
  | .intent i => i.Storable
  | .flush | .advance _ => True

/-- What every document in an editor keeps. -/
structure Kept (d : Document) : Prop where
  distinct : d.Distinct
  storable : d.Storable

theorem kept_intend {e : Editor} (h : Kept e.document) {i : Intent} (hi : i.Storable) :
    Kept (e.intend i).document := by
  rw [document_intend]
  cases hop : i.operation? with
  | none => exact h
  | some operation =>
      exact ⟨Document.perform_distinct h.distinct operation,
        Document.perform_storable h.storable (Intent.storable_operation hi hop)⟩

theorem kept_after (actions : List Action) : ∀ {e : Editor}, Kept e.document →
    (∀ action ∈ actions, action.Storable) → Kept (e.after actions).document := by
  induction actions with
  | nil => exact fun h _ => h
  | cons action rest ih =>
      intro e h hvalues
      obtain ⟨haction, hrest⟩ := List.forall_mem_cons.mp hvalues
      cases action with
      | intent i => exact ih (kept_intend h haction) hrest
      | flush | advance => exact ih h hrest

theorem kept_ofProject (r : Project.Record) (limit delay : Nat) (replies : List StoreReply) :
    Kept (ofProject r.project limit delay replies).document :=
  ⟨Document.ofComponents_distinct _ limit, Document.ofComponents_storable limit r.storable_project⟩

/-! ## Opening again -/

theorem Kept.encodable {d : Document} (h : Kept d)
    (hroom : Document.maxId d.components + (d.components.length + 1) ≤ maxWord)
    (hint : ∀ c ∈ d.components, (Json.obj c.data).Numbers Number.IsInt) :
    ∀ c ∈ d.components, c.Encodable := by
  intro c hc
  have hid := Document.le_maxId hc
  exact
    { word := by omega
      ordered := (h.storable c hc).ordered
      exact := Json.Numbers.exact (hint c hc) (h.storable c hc).fits }

/-- Whatever is done with an editor that a record was opened in: when it is flushed, the last
snapshot that the store was given makes of the record one with the name and the settings of the
editor.  If the ids leave room for one more each and all numbers in the data are integers, that
record opens as the components of the editor, with their ids and data, provided that no data is
nested more than 125 deep; and if some is, it opens empty. -/
theorem reload_of_flush (r : Project.Record) (limit delay : Nat) (replies : List StoreReply)
    (actions : List Action) (hvalues : ∀ action ∈ actions, action.Storable) :
    let e := (ofProject r.project limit delay replies).after actions
    ∃ job, e.flush.2.saving.queue.handed.getLast? = some job ∧
      e.flush.2.saving.calls.getLast? = some (job, e.flush.1) ∧
      let reopened := (r.apply job.snapshot).project
      reopened.id = r.id ∧ reopened.name = Text.trim e.name ∧ reopened.settings = e.settings ∧
      (Document.maxId e.document.components + (e.document.components.length + 1) ≤ maxWord →
        (∀ c ∈ e.document.components, (Json.obj c.data).Numbers Number.IsInt) →
        ((∀ c ∈ e.document.components, c.depth ≤ 125) → ∀ limit',
          (reopened.document limit').components = e.document.components) ∧
        ((∃ c ∈ e.document.components, 125 < c.depth) → reopened.components = [])) := by
  intro e
  have hkept : Kept e.document := kept_after actions (kept_ofProject r limit delay replies) hvalues
  obtain ⟨requests, hcovered⟩ := covered_of_leads (leads_after actions .start :
    Leads (ofProject r.project limit delay replies) e e.saving.calls)
  obtain ⟨job, hhanded, hsnapshot, hcall⟩ :=
    Timeline.last_of_flush hcovered.sound e.snapshot
  refine ⟨job, hhanded, hcall, ?_⟩
  rw [hsnapshot, snapshot, Project.project_apply]
  refine ⟨rfl, rfl, rfl, fun hroom hint => ?_⟩
  rw [Project.reloaded_components (hkept.encodable hroom hint)]
  constructor
  · intro hdepth limit'
    rw [if_pos hdepth]
    exact Document.components_ofComponents limit' hroom hkept.distinct.unique
  · rintro ⟨c, hc, hdeep⟩
    have hnot : ¬ ∀ c ∈ e.document.components, c.depth ≤ 125 := fun h => by
      have hle := h c hc
      omega
    rw [if_neg hnot]

/-- A new project, after a component was added, written to, flushed, and the project renamed. -/
def shop : Editor :=
  (ofProject (Project.Record.new 7 "Draft").project 10 1000 [⟨20, some "disk full"⟩]).after
    [.intent (.add "separator"), .intent (.patch 1 "margin.top" (.nat 5)), .flush,
      .intent (.rename " Shop ")]

theorem reload_of_flush_shop :
    ∃ job, shop.flush.2.saving.queue.handed.getLast? = some job ∧ shop.flush.1 = .ok () ∧
      (((Project.Record.new 7 "Draft").apply job.snapshot).project.document 10).components =
        shop.document.components ∧
      ((Project.Record.new 7 "Draft").apply job.snapshot).project.name = "Shop" ∧
      shop.document.components.map (fun c => (c.id, c.depth)) = [(1, 2)] := by
  have hvalues : ∀ action ∈ ([.intent (.add "separator"),
      .intent (.patch 1 "margin.top" (.nat 5)), .flush, .intent (.rename " Shop ")] : List Action),
      action.Storable := by
    refine List.forall_mem_cons.mpr ⟨trivial, List.forall_mem_cons.mpr ⟨?_, ?_⟩⟩
    · exact Json.storable_nat.mpr (by decide)
    · exact List.forall_mem_cons.mpr ⟨trivial, List.forall_mem_singleton.mpr trivial⟩
  obtain ⟨job, hhanded, _, _, hname, _, hreload⟩ :=
    reload_of_flush (Project.Record.new 7 "Draft") 10 1000 [⟨20, some "disk full"⟩] _ hvalues
  have hall : ∀ c ∈ shop.document.components, c.depth ≤ 125 := by decide +kernel
  refine ⟨job, hhanded, by decide +kernel, ?_, hname.trans (by decide +kernel), by decide +kernel⟩
  exact (hreload (by decide +kernel) (by decide +kernel)).1 hall 10

/-- Lists in lists, so many deep. -/
def nestedList : Nat → Json
  | 0 => .null
  | n + 1 => .arr [nestedList n]

/-- A new project, after a component was added and a value that can be read was written to it. -/
def drilled : Editor :=
  (ofProject (Project.Record.new 1 "Deep").project 10 1000 []).after
    [.intent (.add "separator"), .intent (.patch 1 "a" (nestedList 125))]

/-- A page that meets all conditions on ids and numbers, and whose flush succeeds, is lost when the
value that was written makes its data too deep. -/
theorem drilled_lost :
    (nestedList 125).Storable ∧ (nestedList 125).nesting ≤ Json.maxDepth ∧
    Document.maxId drilled.document.components + (drilled.document.components.length + 1) ≤
      maxWord ∧
    (∀ c ∈ drilled.document.components, (Json.obj c.data).Numbers Number.IsInt) ∧
    drilled.flush.1 = .ok () ∧
    ∃ job, drilled.flush.2.saving.queue.handed.getLast? = some job ∧
      (((Project.Record.new 1 "Deep").apply job.snapshot).project.document 10).components ≠
        drilled.document.components := by
  have hnested : ∀ n, (nestedList n).Storable := by
    intro n
    induction n with
    | zero => exact Json.storable_null
    | succ n ih => exact Json.storable_arr.mpr (List.forall_mem_singleton.mpr ih)
  have hvalues : ∀ action ∈ ([.intent (.add "separator"),
      .intent (.patch 1 "a" (nestedList 125))] : List Action), action.Storable :=
    List.forall_mem_cons.mpr ⟨trivial, List.forall_mem_singleton.mpr (hnested 125)⟩
  have hkept : Kept drilled.document := kept_after _ (kept_ofProject _ _ _ _) hvalues
  have hroom : Document.maxId drilled.document.components +
      (drilled.document.components.length + 1) ≤ maxWord := by decide +kernel
  have hint : ∀ c ∈ drilled.document.components, (Json.obj c.data).Numbers Number.IsInt := by
    decide +kernel
  have hnot : ¬ ∀ c ∈ drilled.document.components, c.depth ≤ 125 := by decide +kernel
  refine ⟨hnested 125, by decide +kernel, hroom, hint, by decide +kernel,
    ⟨3, drilled.snapshot⟩, rfl, fun hsame => ?_⟩
  rw [snapshot, Project.project_apply, Project.document,
    Project.reloaded_components (hkept.encodable hroom hint), if_neg hnot] at hsame
  have hempty : drilled.document.components = [] := hsame.symm
  rw [hempty] at hnot
  exact hnot (List.forall_mem_nil _)

end Editor

end PageBuilder
