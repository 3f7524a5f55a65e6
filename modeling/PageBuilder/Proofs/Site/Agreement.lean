import PageBuilder.Proofs.Site.Files
import PageBuilder.Proofs.Site.Limits

/-!
# Agreement of memory and disk

A site with a disk keeps each project twice: in memory, and in the file that belongs to its id.
The two agree (`Store.Mirrors`) from the start, and every call keeps that, whether the disk does
what it is asked to or not (`Site.settles_perform`), except one: a project is forgotten before its
file is removed, so a deletion whose file cannot be removed fails and still takes the project out of
memory (`Site.Strands`).  The next start brings it back (`Site.perform_of_strands`).
-/

namespace PageBuilder

/-! ## Stores -/

namespace Store

/-- The projects of a store are those in the files of its disk. -/
structure Mirrors (s : Store) (disk : Disk) : Prop where
  held : s.disk = some disk
  tidy : disk.Tidy
  increasing : Increasing s.projects
  same : ∀ id, s.get? id = disk.project? id

/-- The store with other projects and another disk. -/
def withDisk (s : Store) (projects : List (Nat × StoredProject)) (disk : Disk) : Store :=
  { s with projects, disk := some disk }

variable {s : Store} {disk : Disk} {o : Occasion} {id : Nat} {p : StoredProject}

theorem mirrors_load (plan : Plan) (h : disk.Tidy) : (load plan disk).Mirrors disk where
  held := rfl
  tidy := h
  increasing := increasing_foldl disk List.Pairwise.nil
  same := get?_load h

/-- What is loaded from its disk is the store itself. -/
theorem Mirrors.load_eq (h : s.Mirrors disk) : load s.plan disk = s := by
  have hprojects : (load s.plan disk).projects = s.projects :=
    (mirrors_load s.plan h.tidy).increasing.ext h.increasing fun id =>
      (get?_load h.tidy id).trans (h.same id).symm
  cases s
  cases h.held
  cases hprojects
  rfl

/-- A project that is kept can be read from a file, and has the id at which it is kept. -/
theorem Mirrors.fileable (h : s.Mirrors disk) (hp : s.get? id = some p) :
    p.Fileable ∧ p.record.id = id := by
  rw [h.same] at hp
  exact ⟨Disk.fileable_of_project? hp, h.tidy.id_of_project? hp⟩

/-- Writing a file and keeping the project in it keeps the agreement. -/
theorem Mirrors.put (h : s.Mirrors disk) (hp : p.Fileable) (hid : p.record.id = id) :
    (s.withDisk (insertAt id p s.projects) (disk.write (fileName id) p.fileText)).Mirrors
      (disk.write (fileName id) p.fileText) where
  held := rfl
  tidy := hid ▸ h.tidy.write hp
  increasing := h.increasing.insertAt
  same := by
    intro other
    by_cases hother : other = id
    · subst hother
      rw [← hid, Disk.project?_write_self hp]
      exact lookup_insertAt_self
    · rw [Disk.project?_write_of_ne hother, ← h.same]
      exact lookup_insertAt_of_ne hother

/-- Removing a file and forgetting the project in it keeps the agreement. -/
theorem Mirrors.drop (h : s.Mirrors disk) (id : Nat) :
    (s.withDisk (s.projects.filter (·.1 != id)) (disk.remove (fileName id))).Mirrors
      (disk.remove (fileName id)) where
  held := rfl
  tidy := h.tidy.remove _
  increasing := List.Pairwise.sublist List.filter_sublist h.increasing
  same := by
    intro other
    by_cases hother : other = id
    · subst hother
      rw [Disk.project?_remove_self]
      exact lookup_filter_self
    · rw [Disk.project?_remove_of_ne hother, ← h.same]
      exact lookup_filter_of_ne hother

/-! ## Requests to a store with a disk -/

/-- What becomes of a store: it is as it was if the request failed, and mirrors its disk if it was
carried out. -/
inductive Settles (s : Store) {α : Type} : Except Error α × Store → Prop where
  | refused (e : Error) : Settles s (.error e, s)
  | done (a : α) (s' : Store) (disk : Disk) : s'.Mirrors disk → Settles s (.ok a, s')

theorem Settles.map {α β : Type} {f : α → β} {answer : Except Error α × Store}
    (h : s.Settles answer) : s.Settles (answer.1.map f, answer.2) := by
  cases h with
  | refused e => exact .refused e
  | done a s' disk hmirrors => exact .done _ s' disk hmirrors

theorem nextId_le_maxWord (s : Store) : s.nextId ≤ maxWord := by
  rw [nextId]
  split
  · exact Nat.le_of_lt_succ (Nat.mod_lt _ (Nat.succ_pos _))
  · decide

theorem writeFile_of_works (h : s.Mirrors disk) (ho : o.diskWorks = true) (p : StoredProject) :
    s.writeFile o p =
      .ok { s with disk := some (disk.write (fileName p.record.id) p.fileText) } := by
  rw [writeFile, h.held]
  exact if_pos ho

theorem writeFile_of_fails (h : s.Mirrors disk) (ho : o.diskWorks = false) (p : StoredProject) :
    s.writeFile o p = .error .fileSystem := by
  rw [writeFile, h.held]
  exact if_neg (by simp [ho])

theorem settles_create (h : s.Mirrors disk) (hnow : Timestamp.isMoment o.now = true)
    (name : String) : Settles s (s.create o name) := by
  rw [create]
  split
  · exact .refused _
  · cases ho : o.diskWorks with
    | false =>
        simp only [writeFile_of_fails h ho]
        exact .refused _
    | true =>
        simp only [writeFile_of_works h ho]
        have hp : StoredProject.Fileable ⟨.new s.nextId name, o.now, o.now⟩ :=
          ⟨nextId_le_maxWord s, hnow, hnow⟩
        exact .done _ _ _ (h.put hp rfl)

theorem settles_save (h : s.Mirrors disk) (hnow : Timestamp.isMoment o.now = true) (id : Nat)
    (u : Project.Update) : Settles s (s.save o id u) := by
  rw [save]
  cases hold : s.get? id with
  | none => exact .refused _
  | some old =>
      obtain ⟨⟨hword, hcreated, _⟩, hid⟩ := h.fileable hold
      cases ho : o.diskWorks with
      | false =>
          simp only [writeFile_of_fails h ho]
          exact .refused _
      | true =>
          simp only [writeFile_of_works h ho]
          have hp : StoredProject.Fileable
              { old with record := old.record.apply u, updated := o.now } :=
            ⟨hword, hcreated, hnow⟩
          have hput := h.put hp hid
          rw [← hid] at hput ⊢
          exact .done _ _ _ hput

/-- Where memory and disk agree, every project that is kept has a file. -/
theorem isNone_read? (h : s.Mirrors disk) (hp : s.get? id = some p) :
    (disk.read? (fileName id)).isNone = false := by
  rw [h.same] at hp
  obtain ⟨text, htext, _⟩ := Option.bind_eq_some_iff.mp hp
  rw [htext]
  rfl

theorem settles_delete (h : s.Mirrors disk)
    (hsafe : (s.get? id).isSome = true → o.diskWorks = true) : Settles s (s.delete o id) := by
  rw [delete]
  cases hp : s.get? id with
  | none => exact .refused _
  | some p =>
      have ho : o.diskWorks = true := hsafe (by rw [hp]; rfl)
      simp only [removeFile, h.held, isNone_read? h hp, ho]
      exact .done _ _ _ (h.drop id)

/-- A project whose file cannot be removed is forgotten all the same. -/
theorem delete_of_stuck (h : s.Mirrors disk) (hp : s.get? id = some p) (ho : o.diskWorks = false) :
    s.delete o id = (.error .fileSystem, s.withProjects (s.projects.filter (·.1 != id))) := by
  rw [delete, hp]
  simp [removeFile, withProjects, h.held, isNone_read? h hp, ho]

end Store

/-! ## Sites -/

namespace Site

variable {s : Site} {disk : Disk} {o : Occasion} {call : Call}

/-- Whether a call deletes a project whose file cannot be removed. -/
def Strands (s : Site) (o : Occasion) (call : Call) : Prop :=
  ∃ id, call = .delete id ∧ (s.store.get? id).isSome = true ∧ o.diskWorks = false

/-- None of some calls deletes a project whose file cannot be removed. -/
def Unstranded (s : Site) : List (Occasion × Call) → Prop
  | [] => True
  | (o, call) :: rest => ¬ s.Strands o call ∧ (s.perform o call).2.Unstranded rest

/-- Whether the projects of a site are those in the files of its disk. -/
def Agrees (s : Site) : Prop := ∃ disk, s.store.Mirrors disk

theorem agrees_start (plan : Plan) (h : disk.Tidy) (booted : Nat) (folder : String) :
    (start plan (some disk) booted folder).Agrees :=
  ⟨disk, Store.mirrors_load plan h⟩

/-- A new start changes nothing where memory and disk agree. -/
theorem Agrees.restart (h : s.Agrees) : s.restart.store = s.store := by
  obtain ⟨disk, h⟩ := h
  show (start s.store.plan s.store.disk s.booted s.folder).store = s.store
  rw [h.held]
  exact h.load_eq

/-- What becomes of a site: memory and disk agree, and nothing has changed if the request was
refused. -/
def Settles (s : Site) {α : Type} (answer : Except Refusal α × Site) : Prop :=
  answer.2.Agrees ∧ ∀ refusal, answer.1 = .error refusal → answer.2 = s

theorem settles_withStore {α : Type} {refuse : Error → Refusal} {answer : Except Error α × Store}
    (hs : s.Agrees) (h : s.store.Settles answer) : s.Settles (s.withStore refuse answer) := by
  cases h with
  | refused e => exact ⟨hs, fun _ _ => rfl⟩
  | done a s' disk hmirrors => exact ⟨⟨disk, hmirrors⟩, nofun⟩

theorem Settles.map {α β : Type} {f : α → β} {answer : Except Refusal α × Site}
    (h : s.Settles answer) : s.Settles (answer.1.map f, answer.2) := by
  refine ⟨h.1, fun refusal he => h.2 refusal ?_⟩
  cases hresult : answer.1 with
  | error e =>
      rw [hresult] at he
      cases he
      rfl
  | ok a =>
      rw [hresult] at he
      cases he

theorem Settles.refl {α : Type} (hs : s.Agrees) (result : Except Refusal α) :
    s.Settles (result, s) := ⟨hs, fun _ _ => rfl⟩

theorem settles_save (hs : s.Agrees) (hnow : Timestamp.isMoment o.now = true) (id : Nat)
    (u : Project.Update) : s.Settles (s.save o id u) := by
  obtain ⟨disk, hmirrors⟩ := hs
  rw [save]
  split
  · exact .refl ⟨disk, hmirrors⟩ _
  · exact settles_withStore ⟨disk, hmirrors⟩ (Store.settles_save hmirrors hnow id u).map

/-- Whatever a call does, memory and disk agree afterwards, and if it is refused nothing has
changed; unless it deletes a project whose file cannot be removed. -/
theorem settles_perform (h : s.Agrees) (hnow : Timestamp.isMoment o.now = true)
    (hsafe : ¬ s.Strands o call) : s.Settles (s.perform o call) := by
  obtain ⟨disk, hmirrors⟩ := id h
  cases call with
  | create name => exact (settles_withStore h (Store.settles_create hmirrors hnow name)).map
  | save id u => exact (settles_save h hnow id u).map
  | get id => exact .refl h _
  | list => exact .refl h _
  | delete id =>
      have hworks : (s.store.get? id).isSome = true → o.diskWorks = true := by
        intro hsome
        by_contra hfails
        exact hsafe ⟨id, rfl, hsome, by simpa using hfails⟩
      exact (settles_withStore h (Store.settles_delete hmirrors hworks)).map

/-- Memory and disk agree after any calls. -/
theorem agrees_after (calls : List (Occasion × Call)) : ∀ {s : Site}, s.Agrees →
    (∀ c ∈ calls, Timestamp.isMoment c.1.now = true) → s.Unstranded calls →
    (s.after calls).Agrees := by
  induction calls with
  | nil => exact fun h _ _ => h
  | cons first rest ih =>
      intro s h hnow hsafe
      obtain ⟨hfirst, hrest⟩ := List.forall_mem_cons.mp hnow
      exact ih (settles_perform h hfirst hsafe.1).1 hrest hsafe.2

/-! ## Deletions that fail -/

/-- A deletion whose file cannot be removed fails, and takes the project out of memory; the disk is
as it was, and the next start brings everything back. -/
theorem perform_of_strands (h : s.Agrees) (hstrands : s.Strands o call) :
    ∃ id p, call = .delete id ∧ s.store.get? id = some p ∧
      (s.perform o call).1 = .error (.failed .fileSystem) ∧
      (s.perform o call).2.store.disk = s.store.disk ∧
      (s.perform o call).2.store.get? id = none ∧
      (∀ other, other ≠ id → (s.perform o call).2.store.get? other = s.store.get? other) ∧
      (s.perform o call).2.restart.store = s.store := by
  obtain ⟨disk, hmirrors⟩ := h
  obtain ⟨id, rfl, hsome, ho⟩ := hstrands
  obtain ⟨p, hp⟩ := Option.isSome_iff_exists.mp hsome
  have hdelete : s.perform o (.delete id) = (.error (.failed .fileSystem),
      s.withProjects (s.store.projects.filter (·.1 != id))) := by
    rw [perform, delete, Store.delete_of_stuck hmirrors hp ho]
    rfl
  rw [hdelete]
  refine ⟨id, p, rfl, hp, rfl, rfl, Store.lookup_filter_self,
    fun other hother => Store.lookup_filter_of_ne hother, ?_⟩
  show (start s.store.plan s.store.disk s.booted s.folder).store = s.store
  rw [hmirrors.held]
  exact hmirrors.load_eq

/-! ## The agreement -/

/-- A site that starts with a tidy disk, after any calls of which none deletes a project whose file
cannot be removed.  Files may fail to be written.  The projects in memory are those in the files
that belong to their ids, and a new start would change nothing.  Whatever the next call is, unless
it is such a deletion, this still holds after it, and if it is refused, nothing has changed, neither
in memory nor on the disk.  If it is such a deletion, it is refused, the disk is as it was, and the
project is missing from memory until the next start brings it back. -/
theorem agreement_of_calls (plan : Plan) {disk : Disk} (hdisk : disk.Tidy) (booted : Nat)
    (folder : String) (calls : List (Occasion × Call))
    (hnow : ∀ c ∈ calls, Timestamp.isMoment c.1.now = true)
    (hsafe : (start plan (some disk) booted folder).Unstranded calls) :
    let s := (start plan (some disk) booted folder).after calls
    (∃ files, s.store.disk = some files ∧ ∀ id, s.store.get? id = files.project? id) ∧
    (∀ id p, s.store.get? id = some p → p.record.id = id) ∧
    s.restart.store = s.store ∧
    ∀ (o : Occasion) (call : Call) (result : Except Refusal (List Project.Record)) (s' : Site),
      Timestamp.isMoment o.now = true → s.perform o call = (result, s') →
      (¬ s.Strands o call →
        (∃ files, s'.store.disk = some files ∧ ∀ id, s'.store.get? id = files.project? id) ∧
        s'.restart.store = s'.store ∧
        ∀ refusal, result = .error refusal → s' = s) ∧
      (s.Strands o call → ∃ id p, call = .delete id ∧ s.store.get? id = some p ∧
        result = .error (.failed .fileSystem) ∧ s'.store.disk = s.store.disk ∧
        s'.store.get? id = none ∧ s'.restart.store = s.store) := by
  intro s
  have hagrees : s.Agrees := agrees_after calls (agrees_start plan hdisk booted folder) hnow hsafe
  obtain ⟨files, hmirrors⟩ := id hagrees
  refine ⟨⟨files, hmirrors.held, hmirrors.same⟩, fun id p hp => (hmirrors.fileable hp).2,
    hagrees.restart, fun o call result s' ho hcall => ⟨fun hkept => ?_, fun hstrands => ?_⟩⟩
  · have hsettles := settles_perform hagrees ho hkept
    rw [hcall] at hsettles
    obtain ⟨⟨files', hmirrors'⟩, hsame⟩ := hsettles
    exact ⟨⟨files', hmirrors'.held, hmirrors'.same⟩, Agrees.restart ⟨files', hmirrors'⟩, hsame⟩
  · obtain ⟨id, p, hid, hp, hresult, hheld, hgone, _, hback⟩ := perform_of_strands hagrees hstrands
    rw [hcall] at hresult hheld hgone hback
    exact ⟨id, p, hid, hp, hresult, hheld, hgone, hback⟩

/-- A project in a file. -/
def shop : StoredProject :=
  ⟨⟨1, "Shop", none, none⟩, "2026-01-01T00:00:00Z", "2026-01-01T00:00:00Z"⟩

/-- Its file and one that holds no project. -/
def shopDisk : Disk := [(Store.fileName 1, shop.fileText), ("notes.txt", "")]

theorem tidy_shopDisk : shopDisk.Tidy where
  nodup := by decide +kernel
  own := by
    have hshop : shop.Fileable := ⟨by decide, by decide +kernel, by decide +kernel⟩
    refine List.forall_mem_cons.mpr ⟨fun _ p hp => ?_, List.forall_mem_singleton.mpr ?_⟩
    · rw [StoredProject.ofFileText?_fileText hshop] at hp
      cases hp
      rfl
    · intro hname
      exact absurd hname (by decide +kernel)

/-- An occasion on which the disk works, or does not. -/
def occasion (works : Bool) : Occasion := ⟨"2026-01-02T00:00:00Z", "a", works⟩

/-- A project is created, a save and another creation fail for the disk, and the project that was
there first is deleted. -/
def unsteady : List (Occasion × Call) :=
  [(occasion true, .create "Blog"), (occasion false, .save 1 ⟨some "New", none, none⟩),
    (occasion false, .create "Late"), (occasion true, .delete 1)]

theorem agreement_of_calls_unsteady :
    shopDisk.Tidy ∧ (∀ c ∈ unsteady, Timestamp.isMoment c.1.now = true) ∧
      (start .free (some shopDisk) 0 "uploads").Unstranded unsteady ∧
      let s := (start .free (some shopDisk) 0 "uploads").after unsteady
      s.store.records.map (fun r => (r.id, r.name)) = [(2, "Blog")] ∧
        (∃ files, s.store.disk = some files ∧ ∀ id, s.store.get? id = files.project? id) ∧
        s.restart.store = s.store := by
  have hnow : ∀ c ∈ unsteady, Timestamp.isMoment c.1.now = true := by decide +kernel
  have hsafe : (start .free (some shopDisk) 0 "uploads").Unstranded unsteady := by
    refine ⟨?_, ?_, ?_, ?_, trivial⟩
    · rintro ⟨id, hcall, _⟩
      cases hcall
    · rintro ⟨id, hcall, _⟩
      cases hcall
    · rintro ⟨id, hcall, _⟩
      cases hcall
    · rintro ⟨id, _, _, hworks⟩
      cases hworks
  obtain ⟨hfiles, _, hrestart, _⟩ :=
    agreement_of_calls .free tidy_shopDisk 0 "uploads" unsteady hnow hsafe
  exact ⟨tidy_shopDisk, hnow, hsafe, by decide +kernel, hfiles, hrestart⟩

/-- A deletion fails, but the project is gone from memory while its file is still there.  And a
deletion succeeds, but the project is in a file of another name, which is still there; the next
start brings it back. -/
theorem disagreement_after_delete :
    (let s := start .free (some shopDisk) 0 "uploads"
      let next := s.perform (occasion false) (.delete 1)
      next.1.toOption = none ∧ s.store.get? 1 = some shop ∧ next.2.store.get? 1 = none ∧
        next.2.store.disk = some shopDisk ∧ shopDisk.project? 1 = some shop) ∧
    (let disk : Disk := [(Store.fileName 3, shop.fileText)]
      let s := start .free (some disk) 0 "uploads"
      let next := s.perform (occasion true) (.delete 1)
      next.1.toOption = some [] ∧ s.store.get? 1 = some shop ∧ next.2.store.get? 1 = none ∧
        next.2.store.disk = some disk ∧ next.2.restart.store.get? 1 = some shop) := by
  decide +kernel

end Site

end PageBuilder
