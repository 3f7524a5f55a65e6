import PageBuilder.Proofs.Json.Reading

/-!
# Which records are read

A draft that has a value is sound: it breaks off nowhere, and so does nothing in it
(`value_unbroken`).  Of a sound object a record is read exactly if each of its members is written
at most once, is there if it must be, and passes its check (`exists_record_object_iff`); all other
keys are free.  So every member of a record that was read has a value (`exists_get`).
-/

namespace PageBuilder.Json

/-! ## Sound drafts -/

theorem exists_of_values {depth : Nat} {items : List Draft} {vs : List Json}
    (h : Draft.values depth items = .ok vs) : ∀ d ∈ items, ∃ v, d.value depth = .ok v := by
  induction items generalizing vs with
  | nil => exact List.forall_mem_nil _
  | cons d rest ih =>
      obtain ⟨v, hv, h⟩ := bind_eq_ok h
      obtain ⟨others, hothers, _⟩ := bind_eq_ok h
      exact List.forall_mem_cons.mpr ⟨⟨v, hv⟩, ih hothers⟩

theorem exists_of_entryValues {depth : Nat} {entries : List (Option String × Draft)}
    {es : List (String × Json)} (h : Draft.entryValues depth entries = .ok es) :
    ∀ e ∈ entries, e.1.isSome = true ∧ ∃ v, e.2.value depth = .ok v := by
  induction entries generalizing es with
  | nil => exact List.forall_mem_nil _
  | cons e rest ih =>
      obtain ⟨key, d⟩ := e
      cases key with
      | none => cases h
      | some key =>
          obtain ⟨v, hv, h⟩ := bind_eq_ok h
          obtain ⟨others, hothers, _⟩ := bind_eq_ok h
          exact List.forall_mem_cons.mpr ⟨⟨rfl, v, hv⟩, ih hothers⟩

theorem sound_list {depth : Nat} {items : List Draft} {closed : Bool} {v : Json}
    (h : (Draft.list items closed).value (depth + 1) = .ok v) :
    closed = true ∧ ∀ d ∈ items, ∃ v, d.value depth = .ok v := by
  obtain ⟨vs, hvs, h⟩ := bind_eq_ok h
  split at h
  next hclosed => exact ⟨hclosed, exists_of_values hvs⟩
  next => cases h

theorem sound_object {depth : Nat} {entries : List (Option String × Draft)} {closed : Bool}
    {v : Json} (h : (Draft.object entries closed).value (depth + 1) = .ok v) :
    closed = true ∧ ∀ e ∈ entries, e.1.isSome = true ∧ ∃ v, e.2.value depth = .ok v := by
  obtain ⟨es, hes, h⟩ := bind_eq_ok h
  split at h
  next hclosed => exact ⟨hclosed, exists_of_entryValues hes⟩
  next => cases h

theorem allUnbroken_iff {items : List Draft} :
    Draft.allUnbroken items = true ↔ ∀ d ∈ items, d.unbroken = true := by
  induction items with
  | nil => simp [Draft.allUnbroken]
  | cons d rest ih => simp [Draft.allUnbroken, ih]

theorem entriesUnbroken_iff {entries : List (Option String × Draft)} :
    Draft.entriesUnbroken entries = true ↔ ∀ e ∈ entries, e.2.unbroken = true := by
  induction entries with
  | nil => simp [Draft.entriesUnbroken]
  | cons e rest ih => simp [Draft.entriesUnbroken, ih]

/-- A draft that has a value is unbroken. -/
theorem value_unbroken {depth : Nat} : ∀ {d : Draft} {v : Json}, d.value depth = .ok v →
    d.unbroken = true := by
  induction depth with
  | zero =>
      intro d v h
      cases d <;> first | rfl | cases h
  | succ depth ih =>
      intro d v h
      cases d with
      | list items closed =>
          obtain ⟨hclosed, hitems⟩ := sound_list h
          refine Bool.and_eq_true_iff.mpr ⟨hclosed, allUnbroken_iff.mpr fun d hd => ?_⟩
          obtain ⟨v, hv⟩ := hitems d hd
          exact ih hv
      | object entries closed =>
          obtain ⟨hclosed, hentries⟩ := sound_object h
          refine Bool.and_eq_true_iff.mpr ⟨hclosed, entriesUnbroken_iff.mpr fun e he => ?_⟩
          obtain ⟨_, v, hv⟩ := hentries e he
          exact ih hv
      | unholdable | broken => cases h
      | _ => rfl

/-! ## Reading item by item -/

/-- Items are read exactly if each of them is. -/
theorem exists_mapM_iff {α β : Type} {f : α → Except Fault β} {xs : List α} :
    (∃ ys, xs.mapM f = .ok ys) ↔ ∀ x ∈ xs, ∃ y, f x = .ok y := by
  induction xs with
  | nil => exact ⟨fun _ => List.forall_mem_nil _, fun _ => ⟨[], rfl⟩⟩
  | cons x rest ih =>
      rw [List.mapM_cons, List.forall_mem_cons, ← ih]
      constructor
      · rintro ⟨ys, h⟩
        obtain ⟨y, hy, h⟩ := bind_eq_ok h
        obtain ⟨others, hothers, _⟩ := bind_eq_ok h
        exact ⟨⟨y, hy⟩, others, hothers⟩
      · rintro ⟨⟨y, hy⟩, others, hothers⟩
        exact ⟨y :: others, by rw [hy, hothers]; rfl⟩

/-! ## Values at a key -/

/-- The values that entries have at a key, in their order. -/
def valuesAt {κ : Type} [DecidableEq κ] (key : κ) (entries : List (κ × Draft)) : List Draft :=
  entries.filterMap fun e => if e.1 = key then some e.2 else none

section

variable {κ : Type} [DecidableEq κ] {key other : κ} {d : Draft} {entries : List (κ × Draft)}

@[simp] theorem valuesAt_nil : valuesAt key [] = [] := rfl

@[simp] theorem valuesAt_cons_self :
    valuesAt key ((key, d) :: entries) = d :: valuesAt key entries := by
  simp [valuesAt]

theorem valuesAt_cons_of_ne (h : other ≠ key) :
    valuesAt key ((other, d) :: entries) = valuesAt key entries := by
  simp [valuesAt, h]

theorem mem_of_mem_valuesAt (h : d ∈ valuesAt key entries) : (key, d) ∈ entries := by
  obtain ⟨e, he, hd⟩ := List.mem_filterMap.mp h
  split at hd
  next hkey =>
    cases hd
    exact hkey ▸ he
  next => cases hd

end

namespace Shape

variable {members : List Member} {depth : Nat} {entries : List (Option String × Draft)}
  {found values : List (String × Draft)} {key : String} {m : Member} {d : Draft}

/-! ## Members -/

section

variable {α : Type} (name : String) (shape : Shape α)

@[simp] theorem name_required : (required name shape).name = name := rfl

@[simp] theorem name_optional : (optional name shape).name = name := rfl

@[simp] theorem required_required : (required name shape).required = true := rfl

@[simp] theorem required_optional : (optional name shape).required = false := rfl

end

section

variable {α : Type} {name : String} {shape : Shape α}

/-- The check of a member succeeds exactly if its value can be read. -/
theorem check_required_iff :
    (required name shape).check depth d = .ok () ↔ ∃ a, shape depth d = .ok a := by
  simp only [required]
  cases shape depth d with
  | error e => exact ⟨nofun, nofun⟩
  | ok a => exact ⟨fun _ => ⟨a, rfl⟩, fun _ => rfl⟩

theorem check_optional_iff :
    (optional name shape).check depth d = .ok () ↔ ∃ a, shape depth d = .ok a :=
  (check_required_iff : (required name shape).check depth d = .ok () ↔ _)

end

/-! ## Objects -/

/-- Whether entries write the members that `found` has not, each at most once and so that it passes
its check. -/
def Passes (members : List Member) (depth : Nat) (found : List (String × Draft))
    (entries : List (Option String × Draft)) : Prop :=
  ∀ key m, members.find? (·.name == key) = some m →
    (valuesAt (some key) entries).length + (found.lookup key).isSome.toNat ≤ 1 ∧
    ∀ d ∈ valuesAt (some key) entries, m.check depth d = .ok ()

theorem passes_nil : Passes members depth found [] := by
  intro key m _
  simp [Bool.toNat_le]

theorem passes_cons_of_unknown (h : members.find? (·.name == key) = none) :
    Passes members depth found ((some key, d) :: entries) ↔ Passes members depth found entries := by
  have hother : ∀ other m, members.find? (·.name == other) = some m →
      valuesAt (some other) ((some key, d) :: entries) = valuesAt (some other) entries := by
    intro other m hm
    refine valuesAt_cons_of_ne fun heq => ?_
    cases heq
    rw [h] at hm
    cases hm
  constructor
  · intro hp other m hm
    have := hp other m hm
    rwa [hother other m hm] at this
  · intro hp other m hm
    rw [hother other m hm]
    exact hp other m hm

theorem passes_cons_of_known (h : members.find? (·.name == key) = some m) :
    Passes members depth found ((some key, d) :: entries) ↔
      (found.lookup key).isSome = false ∧ m.check depth d = .ok () ∧
        Passes members depth ((key, d) :: found) entries := by
  have hlookup : ∀ other, other ≠ key →
      ((key, d) :: found).lookup other = found.lookup other := by
    intro other hne
    rw [List.lookup_cons, beq_false_of_ne hne]
  constructor
  · intro hp
    obtain ⟨hcount, hcheck⟩ := hp key m h
    rw [valuesAt_cons_self] at hcount hcheck
    obtain ⟨hd, hrest⟩ := List.forall_mem_cons.mp hcheck
    rw [List.length_cons] at hcount
    have hnone : (found.lookup key).isSome = false := by
      cases hsome : (found.lookup key).isSome with
      | false => rfl
      | true =>
          rw [hsome, Bool.toNat_true] at hcount
          omega
    refine ⟨hnone, hd, fun other m' hm' => ?_⟩
    by_cases heq : other = key
    · subst heq
      rw [h] at hm'
      cases hm'
      refine ⟨?_, hrest⟩
      simp only [List.lookup_cons_self, Option.isSome_some, Bool.toNat_true]
      omega
    · have hother := hp other m' hm'
      rw [valuesAt_cons_of_ne fun he => heq (Option.some.inj he).symm] at hother
      rwa [hlookup other heq]
  · rintro ⟨hnone, hd, hp⟩ other m' hm'
    by_cases heq : other = key
    · subst heq
      rw [h] at hm'
      cases hm'
      obtain ⟨hcount, hcheck⟩ := hp other m h
      simp only [List.lookup_cons_self, Option.isSome_some, Bool.toNat_true] at hcount
      rw [valuesAt_cons_self, hnone]
      exact ⟨by simpa using hcount, List.forall_mem_cons.mpr ⟨hd, hcheck⟩⟩
    · have hother := hp other m' hm'
      rw [hlookup other heq] at hother
      rwa [valuesAt_cons_of_ne fun he => heq (Option.some.inj he).symm]

/-- The entries of a sound object are read exactly if they pass. -/
theorem exists_readEntries_iff : ∀ {entries : List (Option String × Draft)}
    {found : List (String × Draft)}, (∀ e ∈ entries, e.1.isSome = true ∧ e.2.unbroken = true) →
    ((∃ values, readEntries members depth found entries = .ok values) ↔
      Passes members depth found entries) := by
  intro entries
  induction entries with
  | nil => exact fun _ => ⟨fun _ => passes_nil, fun _ => ⟨_, rfl⟩⟩
  | cons e rest ih =>
      intro found hsound
      obtain ⟨⟨hkey, hd⟩, hrest⟩ := List.forall_mem_cons.mp hsound
      obtain ⟨key, d⟩ := e
      obtain ⟨key, rfl⟩ := Option.isSome_iff_exists.mp hkey
      rw [readEntries]
      cases hfind : members.find? (·.name == key) with
      | none => simp only [hd, if_true, ih hrest, passes_cons_of_unknown hfind]
      | some m =>
          rw [passes_cons_of_known hfind, ← ih hrest]
          cases hfound : (found.lookup key).isSome with
          | true => simp
          | false =>
              cases hcheck : m.check depth d with
              | error e => simp [hcheck]
              | ok _ => simp [hcheck]

/-- What was found before stays, and the values at the key of a member are added to it. -/
theorem valuesAt_of_readEntries (hm : members.find? (·.name == key) = some m) :
    ∀ {entries : List (Option String × Draft)} {found : List (String × Draft)},
      readEntries members depth found entries = .ok values →
      valuesAt key values = valuesAt key found.reverse ++ valuesAt (some key) entries := by
  intro entries
  induction entries with
  | nil =>
      intro found h
      cases h
      simp
  | cons e rest ih =>
      intro found h
      obtain ⟨k, d⟩ := e
      cases k with
      | none => cases h
      | some k =>
          rw [readEntries] at h
          split at h
          next hunknown =>
            have hne : (some k : Option String) ≠ some key := by
              rintro heq
              cases heq
              rw [hm] at hunknown
              cases hunknown
            split at h
            · rw [ih h, valuesAt_cons_of_ne hne]
            · cases h
          next =>
            split at h
            · cases h
            · obtain ⟨_, _, h⟩ := bind_eq_ok h
              rw [ih h]
              by_cases heq : k = key
              · subst heq
                simp [valuesAt]
              · rw [valuesAt_cons_of_ne fun he => heq (Option.some.inj he)]
                simp [valuesAt, heq]

theorem lookup_isNone_iff : (found.lookup key).isNone = true ↔ valuesAt key found = [] := by
  rw [Option.isNone_iff_eq_none, List.lookup_eq_none_iff, valuesAt, List.filterMap_eq_nil_iff]
  refine forall_congr' fun e => imp_congr_right fun _ => ?_
  simp only [bne_iff_ne, ne_eq, ite_eq_right_iff, reduceCtorEq, imp_false]
  exact ⟨fun h he => h he.symm, fun h he => h he.symm⟩

theorem find?_of_mem (hnames : (members.map (·.name)).Nodup) (hm : m ∈ members) :
    members.find? (·.name == m.name) = some m := by
  induction members with
  | nil => cases hm
  | cons first rest ih =>
      obtain ⟨hfirst, hrest⟩ := List.nodup_cons.mp hnames
      obtain rfl | hm := List.mem_cons.mp hm
      · simp
      · have hne : first.name ≠ m.name := fun heq =>
          hfirst (List.mem_map.mpr ⟨m, hm, heq.symm⟩)
        rw [List.find?_cons, beq_false_of_ne hne]
        exact ih hrest hm

/-- A record is read from a sound object exactly if each member is written at most once, is written
if it must be, and passes its check. -/
theorem exists_record_object_iff (hnames : (members.map (·.name)).Nodup)
    (hsound : ∀ e ∈ entries, e.1.isSome = true ∧ e.2.unbroken = true) :
    (∃ found, record members (depth + 1) (.object entries true) = .ok found) ↔
      ∀ m ∈ members, (valuesAt (some m.name) entries).length ≤ 1 ∧
        (m.required = true → valuesAt (some m.name) entries ≠ []) ∧
        ∀ d ∈ valuesAt (some m.name) entries, m.check depth d = .ok () := by
  constructor
  · rintro ⟨found, h⟩ m hm
    have hfind := find?_of_mem hnames hm
    obtain ⟨values, hvalues, h⟩ := bind_eq_ok h
    obtain ⟨hcount, hcheck⟩ := (exists_readEntries_iff hsound).mp ⟨values, hvalues⟩ m.name m hfind
    have hat := valuesAt_of_readEntries hfind hvalues
    refine ⟨Nat.le_trans (Nat.le_add_right _ _) hcount, fun hrequired hnone => ?_, hcheck⟩
    have hmissing : (values.lookup m.name).isNone = true := by
      rw [lookup_isNone_iff, hat, hnone]
      rfl
    have hany : members.any (fun m => m.required && (values.lookup m.name).isNone) = true :=
      List.any_eq_true.mpr ⟨m, hm, Bool.and_eq_true_iff.mpr ⟨hrequired, hmissing⟩⟩
    simp [hany] at h
  · intro h
    have hpasses : Passes members depth [] entries := by
      intro key m hfind
      have hname : m.name = key := by simpa using List.find?_some hfind
      obtain ⟨hcount, _, hcheck⟩ := h m (List.mem_of_find?_eq_some hfind)
      rw [hname] at hcount hcheck
      exact ⟨hcount, hcheck⟩
    obtain ⟨values, hvalues⟩ := (exists_readEntries_iff hsound).mpr hpasses
    have hall : members.any (fun m => m.required && (values.lookup m.name).isNone) = false := by
      refine List.any_eq_false.mpr fun m hm hmissing => ?_
      obtain ⟨hrequired, hnone⟩ := Bool.and_eq_true_iff.mp hmissing
      rw [lookup_isNone_iff, valuesAt_of_readEntries (find?_of_mem hnames hm) hvalues] at hnone
      exact (h m hm).2.1 hrequired hnone
    exact ⟨⟨depth, values⟩, by simp [record, hvalues, hall]⟩

/-! ## Lists -/

/-- Members are read from a whole list exactly if it has an item for each that must be there and
for no more than there are, and each item passes the check of its member. -/
theorem exists_readItems_iff : ∀ {members : List Member} {items : List Draft},
    (∃ values, readItems depth true members items = .ok values) ↔
      items.length ≤ members.length ∧ (∀ e ∈ members.zip items, e.1.check depth e.2 = .ok ()) ∧
        ∀ m ∈ members.drop items.length, m.required = false := by
  intro members
  induction members with
  | nil =>
      intro items
      cases items <;> simp [readItems]
  | cons member members ih =>
      intro items
      cases items with
      | nil =>
          have hnone : (∀ m ∈ member :: members, m.required = false) ↔
              (member :: members).any (·.required) = false := by
            simp
          rw [List.zip_nil_right, List.length_nil, List.drop_zero, hnone]
          cases hany : (member :: members).any (·.required) <;> simp [readItems, hany]
      | cons d rest =>
          have hstep :
              (∃ values, readItems depth true (member :: members) (d :: rest) = .ok values) ↔
              member.check depth d = .ok () ∧
                ∃ values, readItems depth true members rest = .ok values := by
            constructor
            · rintro ⟨values, h⟩
              obtain ⟨_, hcheck, h⟩ := bind_eq_ok h
              obtain ⟨found, hfound, _⟩ := bind_eq_ok h
              exact ⟨hcheck, found, hfound⟩
            · rintro ⟨hcheck, found, hfound⟩
              exact ⟨_, by rw [readItems, hcheck, ok_bind, hfound, ok_bind]⟩
          rw [hstep, ih]
          simp only [List.length_cons, Nat.add_le_add_iff_right, List.zip_cons_cons,
            List.forall_mem_cons, List.drop_succ_cons]
          tauto

/-! ## What was found -/

theorem isSome_of_readItems {closed : Bool} : ∀ {members : List Member} {items : List Draft}
    {values : List (String × Draft)}, readItems depth closed members items = .ok values →
    m ∈ members → m.required = true → (values.lookup m.name).isSome = true := by
  intro members
  induction members with
  | nil =>
      intro items values _ hm
      cases hm
  | cons member members ih =>
      intro items values h hm hrequired
      cases items with
      | nil =>
          simp only [readItems] at h
          split_ifs at h with _ hany
          exact absurd (List.any_eq_true.mpr ⟨m, hm, hrequired⟩) hany
      | cons d rest =>
          obtain ⟨_, _, h⟩ := bind_eq_ok h
          obtain ⟨found, hfound, h⟩ := bind_eq_ok h
          cases h
          rw [List.lookup_cons]
          obtain rfl | hm := List.mem_cons.mp hm
          · simp
          · split
            · rfl
            · exact ih hfound hm hrequired

/-- A member that must be there is found. -/
theorem isSome_of_required {found : Found} (h : record members depth d = .ok found)
    (hm : m ∈ members) (hrequired : m.required = true) :
    (found.values.lookup m.name).isSome = true := by
  cases depth with
  | zero => cases d <;> cases h
  | succ depth =>
      cases d with
      | object entries closed =>
          obtain ⟨values, _, h⟩ := bind_eq_ok h
          split_ifs at h with _ hany
          cases h
          cases hlookup : values.lookup m.name with
          | some _ => rfl
          | none => exact absurd (List.any_eq_true.mpr ⟨m, hm, by simp [hrequired, hlookup]⟩) hany
      | list items closed =>
          obtain ⟨values, hvalues, h⟩ := bind_eq_ok h
          cases h
          exact isSome_of_readItems hvalues hm hrequired
      | _ => cases h

section

variable {α : Type} {name : String} {shape : Shape α} {found : Found}

/-- A member that was found can be read. -/
theorem exists_of_lookup (hnames : (members.map (·.name)).Nodup) (hm : m ∈ members)
    (h : record members depth d = .ok found) {value : Draft}
    (hvalue : found.values.lookup m.name = some value) : m.check found.depth value = .ok () := by
  obtain ⟨front, back, hvalues, _⟩ := List.lookup_eq_some_iff.mp hvalue
  obtain ⟨m', hm', hname, hcheck⟩ := (mem_of_record h (m.name, value) (by simp [hvalues])).2
  have hfind := find?_of_mem hnames hm'
  rw [hname, find?_of_mem hnames hm] at hfind
  cases hfind
  exact hcheck

/-- Every member of a record that was read has a value. -/
theorem exists_get (hnames : (members.map (·.name)).Nodup) (hm : required name shape ∈ members)
    (h : record members depth d = .ok found) : ∃ a, found.get name shape = .ok a := by
  obtain ⟨value, hvalue⟩ := Option.isSome_iff_exists.mp (isSome_of_required h hm rfl)
  obtain ⟨a, ha⟩ := check_required_iff.mp (exists_of_lookup hnames hm h hvalue)
  rw [name_required] at hvalue
  exact ⟨a, by simp [Found.get, Found.get?, hvalue, ha]⟩

theorem exists_getD (hnames : (members.map (·.name)).Nodup) (hm : optional name shape ∈ members)
    (h : record members depth d = .ok found) (default : α) :
    ∃ a, found.getD name shape default = .ok a := by
  cases hvalue : found.values.lookup name with
  | none => exact ⟨default, by simp [Found.getD, Found.get?, hvalue]⟩
  | some value =>
      obtain ⟨a, ha⟩ := check_optional_iff.mp (exists_of_lookup hnames hm h hvalue)
      exact ⟨a, by simp [Found.getD, Found.get?, hvalue, ha]⟩

end

section

variable {α : Type} {name : String} {shape : Shape α} {found : Found} {a : α}

theorem of_get? (h : found.get? name shape = .ok (some a)) :
    ∃ value, shape found.depth value = .ok a := by
  rw [Found.get?] at h
  split at h
  next value _ =>
    obtain ⟨b, hb, h⟩ := bind_eq_ok h
    cases h
    exact ⟨value, hb⟩
  next => cases h

/-- What a member has was read from its value. -/
theorem of_get (h : found.get name shape = .ok a) : ∃ value, shape found.depth value = .ok a := by
  obtain ⟨b, hb, h⟩ := bind_eq_ok h
  cases b with
  | none => cases h
  | some b =>
      cases h
      exact of_get? hb

theorem of_getD {default : α} (h : found.getD name shape default = .ok a) :
    a = default ∨ ∃ value, shape found.depth value = .ok a := by
  obtain ⟨b, hb, h⟩ := bind_eq_ok h
  cases b with
  | none =>
      cases h
      exact .inl rfl
  | some b =>
      cases h
      exact .inr (of_get? hb)

end

/-- What is read as a natural number has 64 bits. -/
theorem le_of_word {n : Nat} (h : word depth d = .ok n) : n ≤ maxWord := by
  unfold word at h
  split at h
  next i =>
    split at h
    next hrange =>
      cases h
      omega
    next => cases h
  next => cases h

/-! ## Texts of lists -/

section

variable {α : Type} {shape : Shape α} {xs : List α} {s : String}

theorem items_of_list (h : list shape (depth + 1) d = .ok xs) :
    ∃ items, d = .list items true ∧ items.mapM (shape depth) = .ok xs := by
  cases d with
  | list items closed =>
      obtain ⟨values, hvalues, h⟩ := bind_eq_ok h
      split at h
      next hclosed =>
        cases h
        exact ⟨items, by rw [hclosed], hvalues⟩
      next => cases h
  | _ => cases h

/-- What is read from a text is all that the text holds. -/
theorem complete_of_read {x : α} (h : shape.read s = .ok x) : (Draft.ofText s).2 = true := by
  obtain ⟨value, _, h⟩ := bind_eq_ok h
  split at h
  next hcomplete => exact hcomplete
  next => cases h

/-- A text that is read as a list is the list of what is read. -/
theorem ofText_of_read (h : (list shape).read s = .ok xs) :
    ∃ items, Draft.ofText s = (.list items true, true) ∧ items.mapM (shape 126) = .ok xs := by
  obtain ⟨items, hdraft, hitems⟩ := items_of_list (of_read h)
  exact ⟨items, Prod.ext hdraft (complete_of_read h), hitems⟩

theorem read_of_ofText {items : List Draft} (h : Draft.ofText s = (.list items true, true)) :
    (list shape).read s = items.mapM (shape 126) := by
  rw [read, h]
  simp only [maxDepth, list, if_true]
  cases items.mapM (shape 126) <;> rfl

end

end Shape

end PageBuilder.Json
