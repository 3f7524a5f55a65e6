import Mathlib.Algebra.Group.Nat.Defs
import PageBuilder.Proofs.Document.Operations

/-!
# Identity of components

A document is started empty or from loaded components, and then operated on.  Each operation keeps
the ids distinct (`perform_distinct`) and, while the list is of a length that can be, keeps the
document sound (`perform_sound`).  So in every state that can come up the ids are pairwise distinct
and below the next free one, the selection names a component, and handing out the next id never runs
past the last 64-bit word (`ids_of_reached`).
-/

namespace PageBuilder.Document

/-! ## Operations and the states they lead to -/

/-- An operation on a document. -/
inductive Operation where
  | add (typeName : String)
  | move (id : Nat) (direction : Direction)
  | remove (id : Nat)
  | clear
  | select (id : Option Nat)
  | setLimit (limit : Nat)
  | patch (id : Nat) (path : String) (value : Json)
  | append (id : Nat) (list : String) (item : Json)
  | appendDefault (id : Nat) (list : String)
  | removeItem (id : Nat) (list : String) (index : Nat)
  | setColumnCount (id count : Nat)

/-- The document that an operation leaves. -/
def perform (d : Document) : Operation → Document
  | .add typeName => (d.add typeName).2
  | .move id direction => (d.move id direction).2
  | .remove id => (d.remove id).2
  | .clear => d.clear
  | .select id => (d.select id).2
  | .setLimit limit => d.setLimit limit
  | .patch id path value => (d.patch id path value).2
  | .append id list item => (d.append id list item).2
  | .appendDefault id list => (d.appendDefault id list).2
  | .removeItem id list index => (d.removeItem id list index).2
  | .setColumnCount id count => (d.setColumnCount id count).2

/-- Whether an operation asks for a new component. -/
def Operation.adds : Operation → Bool
  | .add _ => true
  | _ => false

/-- The documents that can come up while no list of components grows to `2 ^ 63`. -/
inductive Reached : Document → Prop where
  | empty (limit : Nat) : Reached (.empty limit)
  | ofComponents (components : List Component) (limit : Nat) :
      components.length < 2 ^ 63 → Reached (.ofComponents components limit)
  | perform {d : Document} (operation : Operation) :
      Reached d → d.components.length < 2 ^ 63 → Reached (d.perform operation)

/-! ## Ids stay distinct -/

/-- Distinctness speaks of the ids and the next id only. -/
theorem Distinct.of_eq {d d' : Document} (h : d.Distinct) (hids : d'.ids = d.ids)
    (hnext : d'.nextId = d.nextId) : d'.Distinct where
  unique := hids ▸ h.unique
  fresh := by
    rw [hids, hnext]
    exact h.fresh

theorem Writes.ids_eq {α : Type} {d : Document} {id : Nat} {change : Object → α → Object → Prop}
    {r : Except Error α × Document} (hw : Writes d id change r) :
    r.2.ids = d.ids ∧ r.2.selected = d.selected ∧ r.2.nextId = d.nextId := by
  cases hw with
  | failed e => exact ⟨rfl, rfl, rfl⟩
  | written _ _ => exact ⟨ids_withData .., rfl, rfl⟩

theorem Writes.distinct {α : Type} {d : Document} {id : Nat}
    {change : Object → α → Object → Prop} {r : Except Error α × Document}
    (hw : Writes d id change r) (h : d.Distinct) : r.2.Distinct :=
  h.of_eq hw.ids_eq.1 hw.ids_eq.2.2

/-- A component with the next id can stand at the end. -/
theorem Distinct.push {d : Document} (h : d.Distinct) (typeName : String) (data : Object) :
    Distinct { d with
      components := d.components ++ [⟨d.nextId, typeName, data⟩]
      nextId := d.nextId + 1 } where
  unique := by
    have hnew : d.nextId ∉ d.ids := fun hmem => Nat.lt_irrefl _ (h.fresh _ hmem)
    simp only [ids, List.map_append, List.map_cons, List.map_nil]
    exact List.nodup_append.mpr
      ⟨h.unique, List.nodup_singleton _, fun a ha b hb => by
        rw [List.mem_singleton.mp hb]
        exact fun he => hnew (he ▸ ha)⟩
  fresh := by
    intro id hid
    simp only [ids, List.map_append, List.map_cons, List.map_nil, List.mem_append,
      List.mem_singleton] at hid
    rcases hid with hold | hnew
    · exact Nat.lt_succ_of_lt (h.fresh id hold)
    · exact hnew ▸ Nat.lt_succ_self _

theorem Distinct.add {d : Document} (h : d.Distinct) (typeName : String) :
    (d.add typeName).2.Distinct := by
  obtain ⟨e, he⟩ | ⟨kind, _, _, numbered, hnumbered, hadd⟩ := d.add_cases typeName
  · rw [he]
    exact h
  · have hdistinct : numbered.Distinct := by
      rw [hnumbered]
      split
      · exact renumber_distinct d
      · exact h
    rw [hadd]
    exact hdistinct.push kind.name kind.template

/-- The ids after a move are those before. -/
theorem ids_move_perm (d : Document) (id : Nat) (direction : Direction) :
    (d.move id direction).2.ids.Perm d.ids := by
  obtain hm | ⟨index, hm⟩ := d.move_cases id direction
  · rw [hm]
  · rw [hm]
    exact (swapAt_perm index d.components).map Component.id

theorem nextId_move (d : Document) (id : Nat) (direction : Direction) :
    (d.move id direction).2.nextId = d.nextId ∧
      (d.move id direction).2.selected = d.selected := by
  obtain hm | ⟨index, hm⟩ := d.move_cases id direction
  all_goals rw [hm]; exact ⟨rfl, rfl⟩

theorem Distinct.move {d : Document} (h : d.Distinct) (id : Nat) (direction : Direction) :
    (d.move id direction).2.Distinct where
  unique := (ids_move_perm d id direction).nodup_iff.mpr h.unique
  fresh := by
    intro other hother
    rw [(nextId_move d id direction).1]
    exact h.fresh other ((ids_move_perm d id direction).mem_iff.mp hother)

/-- The ids that are left when one is removed. -/
theorem ids_eraseP (d : Document) (id : Nat) :
    (d.components.eraseP (·.id == id)).map Component.id = d.ids.erase id := by
  unfold ids
  induction d.components with
  | nil => rfl
  | cons c rest ih =>
      by_cases hc : c.id = id
      · simp [hc]
      · simp [hc, ih]

theorem Distinct.remove {d : Document} (h : d.Distinct) (id : Nat) :
    (d.remove id).2.Distinct := by
  obtain hr | ⟨c, _, hr⟩ := d.remove_cases id
  · rw [hr]
    exact h
  · rw [hr]
    constructor
    · simp only [ids, ids_eraseP]
      exact h.unique.erase id
    · intro other hother
      simp only [ids, ids_eraseP] at hother
      exact h.fresh other (List.mem_of_mem_erase hother)

theorem Distinct.clear {d : Document} (_ : d.Distinct) : d.clear.Distinct :=
  ⟨List.nodup_nil, List.forall_mem_nil _⟩

theorem Distinct.select {d : Document} (h : d.Distinct) (id : Option Nat) :
    (d.select id).2.Distinct := by
  cases id with
  | none => exact h.of_eq rfl rfl
  | some id =>
      rw [Document.select]
      split
      · exact h.of_eq rfl rfl
      · exact h

/-- Whatever is done, the ids stay distinct. -/
theorem perform_distinct {d : Document} (h : d.Distinct) (operation : Operation) :
    (d.perform operation).Distinct := by
  cases operation with
  | add typeName => exact h.add typeName
  | move id direction => exact h.move id direction
  | remove id => exact h.remove id
  | clear => exact h.clear
  | select id => exact h.select id
  | setLimit limit => exact h.of_eq rfl rfl
  | patch id path value => exact (d.patch_writes id path value).distinct h
  | append id list item => exact (d.append_writes id list item).distinct h
  | appendDefault id list => exact (d.appendDefault_writes id list).distinct h
  | removeItem id list index => exact (d.removeItem_writes id list index).distinct h
  | setColumnCount id count => exact (d.setColumnCount_writes id count).distinct h

/-! ## The selection stays on a component -/

theorem Writes.selects {α : Type} {d : Document} {id : Nat}
    {change : Object → α → Object → Prop} {r : Except Error α × Document}
    (hw : Writes d id change r) (h : d.Selects) : r.2.Selects := by
  obtain ⟨hids, hselected, _⟩ := hw.ids_eq
  rw [Selects, hids, hselected]
  exact h

theorem Selects.add {d : Document} (h : d.Selects) (typeName : String) :
    (d.add typeName).2.Selects := by
  obtain ⟨e, he⟩ | ⟨kind, _, _, numbered, hnumbered, hadd⟩ := d.add_cases typeName
  · rw [he]
    exact h
  · have hselects : numbered.Selects := by
      rw [hnumbered]
      split
      · exact renumber_selects d
      · exact h
    rw [hadd]
    intro id hid
    simp only [ids, List.map_append, List.mem_append]
    exact Or.inl (hselects id hid)

theorem Selects.move {d : Document} (h : d.Selects) (id : Nat) (direction : Direction) :
    (d.move id direction).2.Selects := by
  intro other hother
  rw [(nextId_move d id direction).2] at hother
  exact (ids_move_perm d id direction).mem_iff.mpr (h other hother)

theorem Selects.remove {d : Document} (h : d.Selects) (id : Nat) : (d.remove id).2.Selects := by
  obtain hr | ⟨c, _, hr⟩ := d.remove_cases id
  · rw [hr]
    exact h
  · rw [hr]
    intro other hother
    simp only [ids, ids_eraseP]
    by_cases hs : d.selected = some id
    · simp [hs] at hother
    · simp only [hs, if_false] at hother
      have hne : other ≠ id := fun he => hs (he ▸ hother)
      exact (List.mem_erase_of_ne hne).mpr (h other hother)

theorem Selects.select {d : Document} (h : d.Selects) (id : Option Nat) :
    (d.select id).2.Selects := by
  cases id with
  | none => exact fun _ hid => (by cases hid)
  | some id =>
      rw [Document.select]
      split
      next hfound =>
        intro other hother
        cases hother
        exact isSome_get?_iff.mp hfound
      next => exact h

/-- Whatever is done, the selection stays that of a component. -/
theorem perform_selects {d : Document} (h : d.Selects) (operation : Operation) :
    (d.perform operation).Selects := by
  cases operation with
  | add typeName => exact h.add typeName
  | move id direction => exact h.move id direction
  | remove id => exact h.remove id
  | clear => exact fun _ hid => (by cases hid)
  | select id => exact h.select id
  | setLimit limit => exact h
  | patch id path value => exact (d.patch_writes id path value).selects h
  | append id list item => exact (d.append_writes id list item).selects h
  | appendDefault id list => exact (d.appendDefault_writes id list).selects h
  | removeItem id list index => exact (d.removeItem_writes id list index).selects h
  | setColumnCount id count => exact (d.setColumnCount_writes id count).selects h

/-! ## Soundness is kept -/

/-- The document that an addition numbers from is sound, and there is a word above its next id. -/
theorem Sound.numbered {d : Document} (h : d.Sound) (hlength : d.components.length < 2 ^ 63) :
    (if d.nextId = maxWord then d.renumber else d).Sound ∧
      (if d.nextId = maxWord then d.renumber else d).nextId < maxWord := by
  have hroom : d.components.length + 1 < maxWord := by
    have : 2 ^ 63 + 1 < maxWord := by decide
    omega
  by_cases hlast : d.nextId = maxWord
  · rw [if_pos hlast]
    exact ⟨renumber_sound (by omega), hroom⟩
  · rw [if_neg hlast]
    exact ⟨h, Nat.lt_of_le_of_ne h.word hlast⟩

theorem Sound.nextId_add {d : Document} (h : d.Sound) (hlength : d.components.length < 2 ^ 63)
    (typeName : String) : (d.add typeName).2.nextId ≤ maxWord := by
  obtain ⟨e, he⟩ | ⟨kind, _, _, numbered, hnumbered, hadd⟩ := d.add_cases typeName
  · rw [he]
    exact h.word
  · rw [hadd]
    exact hnumbered ▸ (h.numbered hlength).2

/-- Only an addition changes the next id. -/
theorem nextId_perform {d : Document} {operation : Operation} (h : operation.adds = false) :
    (d.perform operation).nextId = d.nextId := by
  cases operation with
  | add typeName => cases h
  | move id direction => exact (nextId_move d id direction).1
  | remove id =>
      obtain hr | ⟨_, _, hr⟩ := d.remove_cases id
      all_goals rw [perform, hr]
  | clear | setLimit limit => rfl
  | select id =>
      cases id with
      | none => rfl
      | some id =>
          rw [perform, select]
          split <;> rfl
  | patch id path value => exact (d.patch_writes id path value).ids_eq.2.2
  | append id list item => exact (d.append_writes id list item).ids_eq.2.2
  | appendDefault id list => exact (d.appendDefault_writes id list).ids_eq.2.2
  | removeItem id list index => exact (d.removeItem_writes id list index).ids_eq.2.2
  | setColumnCount id count => exact (d.setColumnCount_writes id count).ids_eq.2.2

/-- Every operation keeps a document sound, while the list is of a length that can be. -/
theorem perform_sound {d : Document} (h : d.Sound) (hlength : d.components.length < 2 ^ 63)
    (operation : Operation) : (d.perform operation).Sound where
  toDistinct := perform_distinct h.toDistinct operation
  selects := perform_selects h.selects operation
  word := by
    cases hadds : operation.adds with
    | false => exact Nat.le_trans (Nat.le_of_eq (nextId_perform hadds)) h.word
    | true =>
        cases operation with
        | add typeName => exact h.nextId_add hlength typeName
        | _ => cases hadds

theorem reached_sound {d : Document} (h : Reached d) : d.Sound := by
  have hword : 2 ^ 63 < maxWord := by decide
  induction h with
  | empty limit => exact empty_sound limit
  | ofComponents components limit hlength => exact ofComponents_sound limit (by omega)
  | perform operation _ hlength ih => exact perform_sound ih hlength operation

/-! ## Ids over a whole run -/

/-- In every state that comes up the ids are pairwise distinct and below the next one, the selection
names a component, and the next id is a word.  An addition that succeeds was made below the limit
with a kind of the catalog: it hands out a word that has a successor, moves the next id just past
it, and stays within the limit. -/
theorem ids_of_reached {d : Document} (h : Reached d) :
    d.ids.Nodup ∧
    (∀ id, d.selected = some id → id ∈ d.ids) ∧
    (∀ id ∈ d.ids, id < d.nextId) ∧
    d.nextId ≤ maxWord ∧
    ∀ typeName id d', d.components.length < 2 ^ 63 → d.add typeName = (.ok id, d') →
      d.components.length < d.limit ∧ (Kind.ofName? typeName).isSome ∧
      id < maxWord ∧ d'.nextId = id + 1 ∧ id ∈ d'.ids ∧
      d'.components.length = d.components.length + 1 ∧ d'.components.length ≤ d'.limit := by
  have hsound := reached_sound h
  refine ⟨hsound.unique, hsound.selects, hsound.fresh, hsound.word, ?_⟩
  intro typeName id d' hlength hadd
  obtain ⟨e, he⟩ | ⟨kind, hkind, hlimit, numbered, hnumbered, hcase⟩ := d.add_cases typeName
  · rw [he] at hadd
    cases hadd
  · have hnext : numbered.nextId < maxWord := hnumbered ▸ (hsound.numbered hlength).2
    have hlen : numbered.components.length = d.components.length := by
      rw [hnumbered]
      split
      · exact length_renumber d
      · rfl
    have hlim : numbered.limit = d.limit := by
      rw [hnumbered]
      split <;> rfl
    rw [hcase] at hadd
    cases hadd
    refine ⟨hlimit, by rw [hkind]; rfl, hnext, rfl, by simp [ids], by simp [hlen], ?_⟩
    simp only [List.length_append, List.length_singleton, hlen, hlim]
    omega

/-- A page whose last id but two is taken, after two additions and a selection between them.  The
second addition gives all ids anew. -/
def exhausted : Document :=
  (((ofComponents [⟨maxWord - 2, "hero", []⟩] 10).perform (.add "text")).perform
    (.select (some (maxWord - 1)))).perform (.add "cta")

theorem exhausted_reached : Reached exhausted :=
  .perform _
    (.perform _ (.perform _ (.ofComponents _ _ (by decide)) (by decide +kernel))
      (by decide +kernel))
    (by decide +kernel)

theorem ids_of_reached_exhausted :
    Reached exhausted ∧ exhausted.ids = [1, 2, 3] ∧ exhausted.selected = some 2 ∧
    exhausted.ids.Nodup ∧ 2 ∈ exhausted.ids ∧ 3 < exhausted.nextId ∧ exhausted.nextId ≤ maxWord ∧
    (exhausted.add "footer").1 = .ok 4 ∧ (exhausted.add "footer").2.nextId = 5 := by
  obtain ⟨hnodup, hselects, hfresh, hword, hadd⟩ := ids_of_reached exhausted_reached
  have hids : exhausted.ids = [1, 2, 3] := by decide +kernel
  have hselected : exhausted.selected = some 2 := by decide +kernel
  have hfooter : (exhausted.add "footer").1 = .ok 4 := by decide +kernel
  refine ⟨exhausted_reached, hids, hselected, hnodup, hselects 2 hselected,
    hfresh 3 (by rw [hids]; decide), hword, hfooter, ?_⟩
  obtain ⟨_, _, _, hnext, _⟩ :=
    hadd "footer" 4 (exhausted.add "footer").2 (by decide +kernel) (Prod.ext hfooter rfl)
  exact hnext

end PageBuilder.Document
