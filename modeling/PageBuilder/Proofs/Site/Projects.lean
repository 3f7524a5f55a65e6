import Mathlib.Data.List.Nodup
import PageBuilder.Site.Basic

/-!
# Projects of a store

The projects of a store stand in the order of their ids, with no id twice (`Store.Increasing`).
Putting a project at an id and taking one away keep that order and do not touch any other id, and
the next id is greater than all that are in use, as long as these have a successor of 64 bits
(`Store.lt_nextId`).

At the end, all that a request can do to a store that has no disk: `Store.create_cases`,
`Store.save_cases` and `Store.delete_cases`.
-/

namespace PageBuilder.Store

/-- The ids of the projects increase strictly. -/
def Increasing (projects : List (Nat × StoredProject)) : Prop :=
  projects.Pairwise fun a b => a.1 < b.1

/-! ## Looking up -/

section

variable {κ β : Type} [BEq κ] [LawfulBEq κ] {key other : κ} {value : β} {entries : List (κ × β)}

theorem mem_of_lookup (h : entries.lookup key = some value) : (key, value) ∈ entries := by
  obtain ⟨front, back, hentries, _⟩ := List.lookup_eq_some_iff.mp h
  simp [hentries]

theorem lookup_of_mem (h : (entries.map (·.1)).Nodup) (hmem : (key, value) ∈ entries) :
    entries.lookup key = some value := by
  induction entries with
  | nil => cases hmem
  | cons entry rest ih =>
      obtain ⟨k, v⟩ := entry
      obtain ⟨hfirst, hrest⟩ := List.nodup_cons.mp h
      obtain he | hmem := List.mem_cons.mp hmem
      · cases he
        exact List.lookup_cons_self
      · have hne : (key == k) = false :=
          beq_false_of_ne fun he => hfirst (List.mem_map.mpr ⟨_, hmem, he⟩)
        rw [List.lookup_cons, hne]
        exact ih hrest hmem

/-- Taking one key away changes no other. -/
theorem lookup_filter_of_ne (h : other ≠ key) :
    (entries.filter (·.1 != key)).lookup other = entries.lookup other := by
  induction entries with
  | nil => rfl
  | cons entry rest ih =>
      obtain ⟨n, q⟩ := entry
      by_cases hn : n = key
      · have hne : (other == n) = false := beq_false_of_ne (hn ▸ h)
        rw [List.filter_cons_of_neg (by simp [hn]), ih, List.lookup_cons, hne]
      · rw [List.filter_cons_of_pos (by simpa using hn), List.lookup_cons, List.lookup_cons, ih]

theorem lookup_filter_self : (entries.filter (·.1 != key)).lookup key = none := by
  rw [List.lookup_eq_none_iff]
  intro entry hentry
  have hkept := bne_iff_ne.mp (List.mem_filter.mp hentry).2
  exact bne_iff_ne.mpr fun heq => hkept heq.symm

end

section

variable {id other : Nat} {p : StoredProject} {projects : List (Nat × StoredProject)}

theorem Increasing.nodup (h : Increasing projects) : (projects.map (·.1)).Nodup :=
  List.pairwise_map.mpr (h.imp fun hlt => Nat.ne_of_lt hlt)

/-- Two lists of projects are the same if they have the same project at each id. -/
theorem Increasing.ext {others : List (Nat × StoredProject)} (h : Increasing projects)
    (h' : Increasing others) (heq : ∀ id, projects.lookup id = others.lookup id) :
    projects = others := by
  have hmem : ∀ e, e ∈ projects ↔ e ∈ others := fun (id, p) =>
    ⟨fun he => mem_of_lookup (heq id ▸ lookup_of_mem h.nodup he),
      fun he => mem_of_lookup (heq id ▸ lookup_of_mem h'.nodup he)⟩
  have hperm : projects.Perm others :=
    (List.perm_ext_iff_of_nodup (List.Nodup.of_map _ h.nodup) (List.Nodup.of_map _ h'.nodup)).mpr
      hmem
  exact hperm.eq_of_pairwise (fun _ _ _ _ hab hba => absurd hab (Nat.lt_asymm hba)) h h'

theorem lookup_eq_none (h : ∀ e ∈ projects, e.1 ≠ id) : projects.lookup id = none := by
  rw [List.lookup_eq_none_iff]
  exact fun e he => bne_iff_ne.mpr fun heq => h e he heq.symm

/-! ## Putting a project at an id -/

theorem mem_insertAt {e : Nat × StoredProject} (h : e ∈ insertAt id p projects) :
    e = (id, p) ∨ e ∈ projects := by
  induction projects with
  | nil => exact .inl (List.mem_singleton.mp h)
  | cons entry rest ih =>
      obtain ⟨n, q⟩ := entry
      rw [insertAt] at h
      split_ifs at h
      · obtain rfl | hrest := List.mem_cons.mp h
        · exact .inl rfl
        · exact .inr (List.mem_cons_of_mem _ hrest)
      · exact List.mem_cons.mp h
      · obtain rfl | hrest := List.mem_cons.mp h
        · exact .inr List.mem_cons_self
        · exact (ih hrest).imp_right (List.mem_cons_of_mem _)

theorem Increasing.insertAt (h : Increasing projects) : Increasing (insertAt id p projects) := by
  induction projects with
  | nil => exact List.pairwise_singleton _ _
  | cons entry rest ih =>
      obtain ⟨n, q⟩ := entry
      obtain ⟨hfirst, hrest⟩ := List.pairwise_cons.mp h
      rw [Store.insertAt]
      split_ifs with heq hlt
      · exact List.pairwise_cons.mpr ⟨heq ▸ hfirst, hrest⟩
      · refine List.pairwise_cons.mpr ⟨?_, h⟩
        rintro e he
        obtain rfl | he := List.mem_cons.mp he
        · exact hlt
        · exact Nat.lt_trans hlt (hfirst e he)
      · refine List.pairwise_cons.mpr ⟨?_, ih hrest⟩
        intro e he
        obtain rfl | he := mem_insertAt he
        · show n < id
          omega
        · exact hfirst e he

theorem lookup_insertAt_self : (insertAt id p projects).lookup id = some p := by
  induction projects with
  | nil => simp [insertAt]
  | cons entry rest ih =>
      obtain ⟨n, q⟩ := entry
      rw [insertAt]
      split_ifs with heq hlt
      · simp
      · simp
      · have hne : (id == n) = false := beq_false_of_ne fun h => heq h.symm
        rw [List.lookup_cons, hne, ih]

theorem lookup_insertAt_of_ne (h : other ≠ id) :
    (insertAt id p projects).lookup other = projects.lookup other := by
  have hid : (other == id) = false := beq_false_of_ne h
  induction projects with
  | nil => simp [insertAt, List.lookup_cons, hid]
  | cons entry rest ih =>
      obtain ⟨n, q⟩ := entry
      rw [insertAt]
      split_ifs with heq hlt
      · simp [List.lookup_cons, hid, heq]
      · simp [List.lookup_cons, hid]
      · simp [List.lookup_cons, ih]

/-- Putting a project at an id that is in use adds none. -/
theorem length_insertAt_of_mem (h : Increasing projects) (hid : id ∈ projects.map (·.1)) :
    (insertAt id p projects).length = projects.length := by
  induction projects with
  | nil => cases hid
  | cons entry rest ih =>
      obtain ⟨n, q⟩ := entry
      obtain ⟨hfirst, hrest⟩ := List.pairwise_cons.mp h
      rw [insertAt]
      split_ifs with heq hlt
      · rfl
      · -- all ids that are in use are greater than `id`
        obtain ⟨e, he, rfl⟩ := List.mem_map.mp hid
        obtain rfl | he := List.mem_cons.mp he
        · exact absurd rfl heq
        · exact absurd (hfirst e he) (Nat.lt_asymm hlt)
      · have hmem : id ∈ rest.map (·.1) :=
          (List.mem_cons.mp hid).resolve_left fun h => heq h.symm
        simp [ih hrest hmem]

theorem length_insertAt_le : (insertAt id p projects).length ≤ projects.length + 1 := by
  induction projects with
  | nil => exact Nat.le_refl 1
  | cons entry rest ih =>
      obtain ⟨n, q⟩ := entry
      rw [insertAt]
      split_ifs
      · exact Nat.le_succ _
      · exact Nat.le_refl _
      · exact Nat.succ_le_succ ih

end

/-! ## The next id -/

variable {s : Store} {o : Occasion}

/-- The next id is greater than every id in use, if those have a successor. -/
theorem lt_nextId (h : Increasing s.projects) (hword : ∀ e ∈ s.projects, e.1 < maxWord) :
    ∀ e ∈ s.projects, e.1 < s.nextId := by
  intro e he
  obtain ⟨last, hlast⟩ : ∃ last, s.projects.getLast? = some last :=
    ⟨_, List.getLast?_eq_some_getLast (List.ne_nil_of_mem he)⟩
  obtain ⟨front, hprojects⟩ := List.getLast?_eq_some_iff.mp hlast
  have hnext : s.nextId = last.1 + 1 := by
    have hlt := hword last (by simp [hprojects])
    rw [nextId, hlast]
    exact Nat.mod_eq_of_lt (by omega)
  have hle : e.1 ≤ last.1 := by
    rw [hprojects] at he h
    obtain he | he := List.mem_append.mp he
    · exact Nat.le_of_lt ((List.pairwise_append.mp h).2.2 e he last (by simp))
    · exact Nat.le_of_eq (congrArg Prod.fst (List.mem_singleton.mp he))
  omega

theorem nextId_le {n : Nat} (h : ∀ e ∈ s.projects, e.1 ≤ n) : s.nextId ≤ n + 1 := by
  rw [nextId]
  split
  next last p hlast =>
    have hle := h (last, p) (List.mem_of_getLast? hlast)
    exact Nat.le_trans (Nat.mod_le _ _) (Nat.succ_le_succ hle)
  next => exact Nat.succ_le_succ (Nat.zero_le n)

/-! ## Saves -/

/-- After a save the project is there with what was saved. -/
theorem get?_of_save {id : Nat} {u : Project.Update} {p : StoredProject} {s' : Store}
    (h : s.save o id u = (.ok p, s')) :
    s'.get? id = some p ∧ ∃ old, s.get? id = some old ∧ p.record = old.record.apply u := by
  rw [save] at h
  cases hold : s.get? id with
  | none =>
      rw [hold] at h
      cases h
  | some old =>
      simp only [hold] at h
      split at h
      next written _ =>
        cases h
        exact ⟨lookup_insertAt_self, old, rfl, rfl⟩
      next => cases h

/-! ## Requests without a disk -/

/-- The store with other projects. -/
def withProjects (s : Store) (projects : List (Nat × StoredProject)) : Store :=
  { s with projects }

theorem writeFile_of_memory (h : s.disk = none) (p : StoredProject) : s.writeFile o p = .ok s := by
  rw [writeFile, h]

theorem removeFile_of_memory (h : s.disk = none) (id : Nat) : s.removeFile o id = .ok s := by
  rw [removeFile, h]

theorem create_cases (h : s.disk = none) (name : String) :
    (s.plan.projectLimit ≤ s.projects.length ∧
      s.create o name = (.error (.limitReached s.plan.projectLimit), s)) ∨
    (s.projects.length < s.plan.projectLimit ∧ ∃ p : StoredProject,
      p.record = .new s.nextId name ∧
      s.create o name = (.ok p, s.withProjects (insertAt s.nextId p s.projects))) := by
  by_cases hfull : s.plan.projectLimit ≤ s.projects.length
  · exact .inl ⟨hfull, by rw [create, if_pos hfull]⟩
  · refine .inr ⟨Nat.lt_of_not_le hfull, ⟨.new s.nextId name, o.now, o.now⟩, rfl, ?_⟩
    rw [create, if_neg hfull]
    simp only [writeFile_of_memory h]
    rfl

theorem save_cases (h : s.disk = none) (id : Nat) (u : Project.Update) :
    (s.get? id = none ∧ s.save o id u = (.error (.notFound id), s)) ∨
    (∃ old p : StoredProject, s.get? id = some old ∧ p.record = old.record.apply u ∧
      s.save o id u = (.ok p, s.withProjects (insertAt id p s.projects))) := by
  cases hold : s.get? id with
  | none => exact .inl ⟨rfl, by rw [save, hold]⟩
  | some old =>
      refine .inr ⟨old, { old with record := old.record.apply u, updated := o.now }, rfl, rfl, ?_⟩
      rw [save, hold]
      simp only [writeFile_of_memory h]
      rfl

theorem delete_cases (h : s.disk = none) (id : Nat) :
    (s.get? id = none ∧ s.delete o id = (.error (.notFound id), s)) ∨
    (∃ old, s.get? id = some old ∧
      s.delete o id = (.ok (), s.withProjects (s.projects.filter (·.1 != id)))) := by
  cases hold : s.get? id with
  | none => exact .inl ⟨rfl, by rw [delete, hold]⟩
  | some old =>
      have hfile := removeFile_of_memory (o := o)
        (show (s.withProjects (s.projects.filter (·.1 != id))).disk = none from h) id
      rw [withProjects] at hfile
      refine .inr ⟨old, rfl, ?_⟩
      rw [delete, hold]
      simp only [hfile]
      rfl

end PageBuilder.Store
