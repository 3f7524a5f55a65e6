import PageBuilder.Proofs.Json.Indented
import PageBuilder.Proofs.Json.Records
import PageBuilder.Proofs.Project.Content
import PageBuilder.Proofs.Site.Projects

/-!
# Files of a site

What is written to the file of a project is read back as that project, if its id has 64 bits and
its two times are moments (`StoredProject.ofFileText?_fileText`); every project that was read from
a file is of that kind (`StoredProject.fileable_of_ofFileText?`).

A disk is *tidy* if each file with a project has the name that belongs to the id in it.  A store
that is loaded from a tidy disk has at each id the project in the file of that id
(`Store.get?_load`).
-/

namespace PageBuilder

open Json

/-! ## Projects in files -/

namespace StoredProject

/-- What a project needs so that it can be read from a file. -/
structure Fileable (p : StoredProject) : Prop where
  word : p.record.id ≤ maxWord
  created : Timestamp.isMoment p.created = true
  updated : Timestamp.isMoment p.updated = true

theorem exact_toJson {p : StoredProject} (h : p.Fileable) : p.toJson.Numbers Number.Exact := by
  have htext : ∀ s : Option String, (Project.optionalText s).Numbers Number.Exact := by
    intro s
    cases s <;> trivial
  exact ⟨Number.exact_nat h.word, trivial, htext _, htext _, trivial, trivial, trivial⟩

/-- An optional text is read back as what it was. -/
theorem nullable_optionalText (depth : Nat) (s : Option String) :
    Shape.nullable Shape.text depth (Draft.ofJson (Project.optionalText s)) = .ok s := by
  cases s <;> rfl

theorem value_optionalText (depth : Nat) (s : Option String) :
    ∃ v, (Draft.ofJson (Project.optionalText s)).value depth = .ok v := by
  cases s <;> exact ⟨_, rfl⟩

theorem shape_ofJson {p : StoredProject} (h : p.Fileable) :
    shape maxDepth (Draft.ofJson p.toJson) = .ok p := by
  obtain ⟨⟨id, name, content, settings⟩, created, updated⟩ := p
  have hid := Shape.word_ofJson 126 h.word
  have htext : ∀ s : String, Shape.text 126 (.text s) = .ok s := fun _ => rfl
  have hcreated : moment 126 (.text created) = .ok created := by simp [moment, htext, h.created]
  have hupdated : moment 126 (.text updated) = .ok updated := by simp [moment, htext, h.updated]
  have hcontent := nullable_optionalText 126 content
  have hsettings := nullable_optionalText 126 settings
  obtain ⟨v, hv⟩ := value_optionalText 126 content
  obtain ⟨w, hw⟩ := value_optionalText 126 settings
  simp only [Json.nat, Draft.ofJson] at hid
  simp only [toJson, Project.Record.members, Draft.ofJson, Draft.ofEntries, shape, Shape.any,
    Draft.value, Draft.entryValues, maxDepth, hv, hw, Json.nat, List.cons_append, List.nil_append,
    ok_bind, if_true]
  simp [Shape.record, Shape.readEntries, Project.Record.memberShapes, Shape.optional,
    Shape.required, Project.Record.ofFound, Shape.Found.get, Shape.Found.getD, Shape.Found.get?,
    List.lookup, hid, htext, hcontent, hsettings, hcreated, hupdated]

/-- What is written to the file of a project is read back as that project. -/
theorem ofFileText?_fileText {p : StoredProject} (h : p.Fileable) :
    ofFileText? p.fileText = some p := by
  rw [ofFileText?, fileText, read_indented shape (exact_toJson h), shape_ofJson h]
  rfl

theorem isMoment_of_moment {depth : Nat} {d : Draft} {s : String} (h : moment depth d = .ok s) :
    Timestamp.isMoment s = true := by
  obtain ⟨text, _, h⟩ := bind_eq_ok h
  split at h
  next hmoment =>
    cases h
    exact hmoment
  next => cases h

theorem fileable_of_shape {d : Draft} {p : StoredProject} (h : shape maxDepth d = .ok p) :
    p.Fileable := by
  cases d with
  | object entries closed =>
      obtain ⟨_, _, h⟩ := bind_eq_ok h
      obtain ⟨found, _, h⟩ := bind_eq_ok h
      obtain ⟨record, hrecord, h⟩ := bind_eq_ok h
      obtain ⟨created, hcreated, h⟩ := bind_eq_ok h
      obtain ⟨updated, hupdated, h⟩ := bind_eq_ok h
      obtain ⟨id, hid, hrecord⟩ := bind_eq_ok hrecord
      obtain ⟨name, _, hrecord⟩ := bind_eq_ok hrecord
      obtain ⟨content, _, hrecord⟩ := bind_eq_ok hrecord
      obtain ⟨settings, _, hrecord⟩ := bind_eq_ok hrecord
      cases hrecord
      cases h
      refine ⟨?_, ?_, ?_⟩
      · obtain rfl | ⟨_, hword⟩ := Shape.of_getD hid
        · exact Nat.zero_le _
        · exact Shape.le_of_word hword
      · obtain ⟨_, hmoment⟩ := Shape.of_get hcreated
        exact isMoment_of_moment hmoment
      · obtain ⟨_, hmoment⟩ := Shape.of_get hupdated
        exact isMoment_of_moment hmoment
  | _ => cases h

/-- Every project that was read from a file can be read from a file. -/
theorem fileable_of_ofFileText? {s : String} {p : StoredProject} (h : ofFileText? s = some p) :
    p.Fileable := by
  rw [ofFileText?] at h
  cases hread : shape.read s with
  | error e =>
      rw [hread] at h
      cases h
  | ok q =>
      rw [hread] at h
      cases h
      exact fileable_of_shape (Shape.of_read hread)

end StoredProject

/-! ## Disks -/

namespace Disk

variable {disk : Disk} {name other text : String}

@[simp] theorem read?_write_self : (disk.write name text).read? name = some text := by
  induction disk with
  | nil => simp [write, read?]
  | cons file rest ih =>
      obtain ⟨n, t⟩ := file
      rw [write]
      split_ifs with h
      · simp [read?]
      · have hne : (name == n) = false := beq_false_of_ne fun he => h he.symm
        rw [read?, List.lookup_cons, hne]
        exact ih

theorem read?_write_of_ne (h : other ≠ name) :
    (disk.write name text).read? other = disk.read? other := by
  have hname : (other == name) = false := beq_false_of_ne h
  induction disk with
  | nil => simp [write, read?, List.lookup_cons, hname]
  | cons file rest ih =>
      obtain ⟨n, t⟩ := file
      rw [write]
      split_ifs with hn
      · simp [read?, List.lookup_cons, hname, hn]
      · rw [read?, read?, List.lookup_cons, List.lookup_cons]
        split
        · rfl
        · exact ih

@[simp] theorem read?_remove_self : (disk.remove name).read? name = none :=
  Store.lookup_filter_self

theorem read?_remove_of_ne (h : other ≠ name) :
    (disk.remove name).read? other = disk.read? other :=
  Store.lookup_filter_of_ne h

theorem mem_write {file : String × String} (h : file ∈ disk.write name text) :
    file = (name, text) ∨ file ∈ disk := by
  induction disk with
  | nil => exact .inl (List.mem_singleton.mp h)
  | cons first rest ih =>
      obtain ⟨n, t⟩ := first
      rw [write] at h
      split_ifs at h
      · exact (List.mem_cons.mp h).imp_right (List.mem_cons_of_mem _)
      · obtain rfl | hrest := List.mem_cons.mp h
        · exact .inr List.mem_cons_self
        · exact (ih hrest).imp_right (List.mem_cons_of_mem _)

theorem nodup_write (h : (disk.map (·.1)).Nodup) : ((disk.write name text).map (·.1)).Nodup := by
  induction disk with
  | nil => exact List.nodup_singleton _
  | cons first rest ih =>
      obtain ⟨n, t⟩ := first
      obtain ⟨hfirst, hrest⟩ := List.nodup_cons.mp h
      rw [write]
      split_ifs with hn
      · exact List.nodup_cons.mpr ⟨hn ▸ hfirst, hrest⟩
      · refine List.nodup_cons.mpr ⟨fun hmem => ?_, ih hrest⟩
        obtain ⟨file, hfile, he⟩ := List.mem_map.mp hmem
        obtain rfl | hfile := mem_write hfile
        · exact hn he.symm
        · exact hfirst (List.mem_map.mpr ⟨file, hfile, he⟩)

end Disk

/-! ## Names of files -/

namespace Store

theorem toList_fileName (id : Nat) :
    (fileName id).toList = Nat.toDigits 10 id ++ ".json".toList := by
  rw [fileName, String.toList_append, Nat.toString_eq_repr, Nat.toList_repr]

/-- Each id has a file of its own. -/
theorem fileName_inj {id other : Nat} (h : fileName id = fileName other) : id = other :=
  Nat.repr_injective ((String.append_left_inj _).mp h)

theorem isProjectFile_fileName (id : Nat) : isProjectFile (fileName id) = true := by
  have hsuffix : ".json".toList.isSuffixOf (fileName id).toList = true := by
    rw [List.isSuffixOf_iff_suffix, toList_fileName]
    exact List.suffix_append _ _
  have hlength : ".json".length < (fileName id).length := by
    have hpos := List.length_pos_iff.mpr (Nat.toDigits_ne_nil (b := 10) (n := id))
    rw [← String.length_toList, ← String.length_toList, toList_fileName, List.length_append]
    omega
  rw [isProjectFile, hsuffix, Bool.true_and]
  exact decide_eq_true hlength

end Store

/-! ## Tidy disks -/

namespace Disk

open Store

/-- The project in the file of an id. -/
def project? (disk : Disk) (id : Nat) : Option StoredProject :=
  (disk.read? (fileName id)).bind StoredProject.ofFileText?

/-- A disk on which names are not repeated and every project has the file of its id. -/
structure Tidy (disk : Disk) : Prop where
  nodup : (disk.map (·.1)).Nodup
  own : ∀ file ∈ disk, isProjectFile file.1 = true →
    ∀ p, StoredProject.ofFileText? file.2 = some p → file.1 = fileName p.record.id

variable {disk : Disk} {id other : Nat} {p : StoredProject}

theorem project?_write_self (h : p.Fileable) :
    (disk.write (fileName p.record.id) p.fileText).project? p.record.id = some p := by
  rw [project?, read?_write_self, Option.bind_some, StoredProject.ofFileText?_fileText h]

theorem project?_write_of_ne {text : String} (h : other ≠ id) :
    (disk.write (fileName id) text).project? other = disk.project? other := by
  rw [project?, read?_write_of_ne fun he => h (fileName_inj he), project?]

theorem project?_remove_self : (disk.remove (fileName id)).project? id = none := by
  rw [project?, read?_remove_self, Option.bind_none]

theorem project?_remove_of_ne (h : other ≠ id) :
    (disk.remove (fileName id)).project? other = disk.project? other := by
  rw [project?, read?_remove_of_ne fun he => h (fileName_inj he), project?]

theorem Tidy.write (h : disk.Tidy) (hp : p.Fileable) :
    (disk.write (fileName p.record.id) p.fileText).Tidy where
  nodup := nodup_write h.nodup
  own := by
    intro file hfile hname q hq
    obtain rfl | hfile := mem_write hfile
    · rw [StoredProject.ofFileText?_fileText hp] at hq
      cases hq
      rfl
    · exact h.own file hfile hname q hq

theorem Tidy.remove (h : disk.Tidy) (name : String) : (disk.remove name).Tidy where
  nodup := List.Nodup.sublist (List.filter_sublist.map _) h.nodup
  own := fun file hfile => h.own file (List.mem_of_mem_filter hfile)

theorem Tidy.tail {file : String × String} (h : Tidy (file :: disk)) : disk.Tidy where
  nodup := (List.nodup_cons.mp h.nodup).2
  own := fun other hother => h.own other (List.mem_cons_of_mem _ hother)

/-- The file of an id on a tidy disk holds no other project. -/
theorem Tidy.id_of_project? (h : disk.Tidy) (hp : disk.project? id = some p) :
    p.record.id = id := by
  obtain ⟨text, htext, hp⟩ := Option.bind_eq_some_iff.mp hp
  have hown := h.own _ (mem_of_lookup htext) (isProjectFile_fileName id) p hp
  exact (fileName_inj hown).symm

theorem fileable_of_project? (hp : disk.project? id = some p) : p.Fileable := by
  obtain ⟨_, _, hp⟩ := Option.bind_eq_some_iff.mp hp
  exact StoredProject.fileable_of_ofFileText? hp

end Disk

/-! ## Loading -/

namespace Store

/-- The projects after one more file was read. -/
def takeFile (projects : List (Nat × StoredProject)) (file : String × String) :
    List (Nat × StoredProject) :=
  if isProjectFile file.1 then
    match StoredProject.ofFileText? file.2 with
    | some p => insertAt p.record.id p projects
    | none => projects
  else projects

theorem projects_load (plan : Plan) (disk : Disk) :
    (load plan disk).projects = disk.foldl takeFile [] := rfl

theorem increasing_foldl (disk : Disk) : ∀ {projects : List (Nat × StoredProject)},
    Increasing projects → Increasing (disk.foldl takeFile projects) := by
  induction disk with
  | nil => exact fun h => h
  | cons file rest ih =>
      intro projects h
      refine ih ?_
      rw [takeFile]
      split
      · split
        · exact h.insertAt
        · exact h
      · exact h

theorem lookup_takeFile_of_ne {file : String × String} {id : Nat}
    {projects : List (Nat × StoredProject)} (hne : file.1 ≠ fileName id)
    (hown : isProjectFile file.1 = true → ∀ p, StoredProject.ofFileText? file.2 = some p →
      file.1 = fileName p.record.id) :
    (takeFile projects file).lookup id = projects.lookup id := by
  rw [takeFile]
  split
  next hname =>
    split
    next p hp =>
      have hid : id ≠ p.record.id := fun he => hne (he ▸ hown hname p hp)
      exact lookup_insertAt_of_ne hid
    next => rfl
  next => rfl

theorem lookup_takeFile_self {text : String} {id : Nat} {projects : List (Nat × StoredProject)}
    (hown : ∀ p, StoredProject.ofFileText? text = some p → fileName id = fileName p.record.id) :
    (takeFile projects (fileName id, text)).lookup id =
      (StoredProject.ofFileText? text).or (projects.lookup id) := by
  rw [takeFile, if_pos (isProjectFile_fileName id)]
  cases hp : StoredProject.ofFileText? text with
  | none => simp
  | some p =>
      have hid := fileName_inj (hown p hp)
      rw [Option.some_or]
      exact hid ▸ lookup_insertAt_self

theorem lookup_foldl {id : Nat} : ∀ {disk : Disk} {projects : List (Nat × StoredProject)},
    disk.Tidy → (disk.foldl takeFile projects).lookup id =
      (disk.project? id).or (projects.lookup id) := by
  intro disk
  induction disk with
  | nil => exact fun _ => rfl
  | cons file rest ih =>
      intro projects h
      obtain ⟨name, text⟩ := file
      obtain ⟨hfirst, _⟩ := List.nodup_cons.mp h.nodup
      obtain ⟨hown, _⟩ := List.forall_mem_cons.mp h.own
      rw [List.foldl_cons, ih h.tail]
      by_cases hname : name = fileName id
      · subst hname
        have hnone : Disk.project? rest id = none := by
          rw [Disk.project?, Disk.read?, List.lookup_eq_none_iff.mpr, Option.bind_none]
          exact fun other hother => bne_iff_ne.mpr fun he =>
            hfirst (List.mem_map.mpr ⟨other, hother, he.symm⟩)
        rw [hnone, Option.none_or, lookup_takeFile_self (hown (isProjectFile_fileName id))]
        simp [Disk.project?, Disk.read?]
      · have hskip : Disk.project? ((name, text) :: rest) id = Disk.project? rest id := by
          have hne : (fileName id == name) = false := beq_false_of_ne fun he => hname he.symm
          simp [Disk.project?, Disk.read?, List.lookup_cons, hne]
        rw [hskip, lookup_takeFile_of_ne hname hown]

/-- A tidy disk is loaded so that each id has the project in its file. -/
theorem get?_load {plan : Plan} {disk : Disk} (h : disk.Tidy) (id : Nat) :
    (load plan disk).get? id = disk.project? id := by
  rw [get?, projects_load, lookup_foldl h]
  simp

end Store

end PageBuilder
