import PageBuilder.Proofs.Json.Storable

/-!
# A field path is a lens

Reading and writing along a path obey the laws of a lens: what was written is read, nothing beside
it is changed, the second of two writes wins, and writes to places that do not contain each other
can be made in any order (`FieldPath.lens`).

All this is settled one step at a time.  `Json.step?` reads one step away.  `Json.enter?` is the
step of a write, for which `null` is an object without fields and a missing field is `null`.  An
entered step is a lens (`step?_put`, `step?_put_of_ne`, `enter?_put`, `enter?_comm`), and the laws
of paths follow by induction on their steps.  Reading and writing part only where nothing is there,
and from there both read nothing further (`follow?_enter?`).
-/

namespace PageBuilder

/-! ## Entries -/

namespace Object

variable {o : Object} {key other : String} {v w : Json}

/-- The second of two insertions at a key wins. -/
theorem insert_insert (key : String) (v w : Json) (o : Object) :
    insert key w (insert key v o) = insert key w o := by
  induction o with
  | nil => simp [insert]
  | cons e rest ih =>
      obtain ⟨k, x⟩ := e
      by_cases hk : k = key
      · simp [insert, hk]
      · by_cases hlt : key < k
        · simp [insert, hk, hlt]
        · simp [insert, hk, hlt, ih]

/-- Insertions at two keys can be made in any order. -/
theorem insert_comm (h : key ≠ other) (v w : Json) (o : Object) :
    insert key v (insert other w o) = insert other w (insert key v o) := by
  have hne : other ≠ key := fun e => h e.symm
  have htotal : key < other ∨ other < key := lt_or_gt_of_ne h
  induction o with
  | nil =>
      rcases htotal with hlt | hgt
      · simp [insert, h, hne, hlt, lt_asymm hlt]
      · simp [insert, h, hne, hgt, lt_asymm hgt]
  | cons e rest ih =>
      obtain ⟨k, x⟩ := e
      simp only [insert]
      grind [insert]

/-- Putting in what is there changes nothing, if the keys are sorted. -/
theorem insert_of_get? (hs : Sorted o) (h : o.get? key = some v) : insert key v o = o := by
  induction o with
  | nil => cases h
  | cons e rest ih =>
      obtain ⟨k, x⟩ := e
      obtain ⟨hfirst, hrest⟩ := List.pairwise_cons.mp hs
      by_cases hk : k = key
      · simp only [get?, hk, if_true, Option.some.injEq] at h
        simp [insert, hk, h]
      · rw [get?, if_neg hk] at h
        have hlt : k < key := hfirst (key, v) (mem_of_get? h)
        simp [insert, hk, lt_asymm hlt, ih hrest h]

end Object

namespace Json

/-! ## One step -/

/-- The value one step away. -/
def step? : Segment → Json → Option Json
  | .key name, .obj entries => Object.get? name entries
  | .index n, .arr items => items[n]?
  | _, _ => none

/-- The fields that a write finds in a value: `null` is an object without any. -/
def record? : Json → Option Object
  | .obj entries => some entries
  | .null => some []
  | _ => none

/-- What a write finds one step away, and what the whole becomes with something else there. -/
def enter? : Segment → Json → Option (Json × (Json → Json))
  | .key name, target =>
      (record? target).map fun entries =>
        ((Object.get? name entries).getD .null, fun w => .obj (Object.insert name w entries))
  | .index n, .arr items => items[n]?.map fun item => (item, fun w => .arr (items.set n w))
  | .index _, _ => none

variable {s t : Segment} {v w target inner : Json} {put : Json → Json}

theorem record?_eq_some {entries : Object} (h : record? target = some entries) :
    target = .obj entries ∨ target = .null ∧ entries = [] := by
  cases target with
  | obj _ => cases h; exact Or.inl rfl
  | null => cases h; exact Or.inr ⟨rfl, rfl⟩
  | _ => cases h

/-- A name leads into fields, an index into items. -/
theorem enter?_cases (h : enter? s target = some (inner, put)) :
    (∃ name entries, s = .key name ∧ record? target = some entries ∧
      inner = (Object.get? name entries).getD .null ∧
      put = fun w => .obj (Object.insert name w entries)) ∨
    (∃ n items, s = .index n ∧ target = .arr items ∧ items[n]? = some inner ∧
      put = fun w => .arr (items.set n w)) := by
  cases s with
  | key name =>
      obtain ⟨entries, hrecord, he⟩ := Option.map_eq_some_iff.mp h
      cases he
      exact Or.inl ⟨name, entries, rfl, hrecord, rfl, rfl⟩
  | index n =>
      cases target with
      | arr items =>
          obtain ⟨item, hitem, he⟩ := Option.map_eq_some_iff.mp h
          cases he
          exact Or.inr ⟨n, items, rfl, rfl, hitem, rfl⟩
      | _ => cases h

/-- Reading finds in a value the fields that a write finds. -/
theorem step?_of_record? {entries : Object} (h : record? target = some entries) (s : Segment) :
    step? s target = step? s (.obj entries) := by
  rcases record?_eq_some h with rfl | ⟨rfl, rfl⟩
  · rfl
  · cases s <;> rfl

/-- What was put one step away is there. -/
theorem step?_put (h : enter? s target = some (inner, put)) (w : Json) :
    step? s (put w) = some w := by
  rcases enter?_cases h with ⟨name, entries, rfl, _, _, rfl⟩ | ⟨n, items, rfl, _, hitem, rfl⟩
  · exact Object.get?_insert_self name w entries
  · obtain ⟨hlt, _⟩ := List.getElem?_eq_some_iff.mp hitem
    simp [step?, hlt]

/-- Putting something one step away leaves what another step leads to. -/
theorem step?_put_of_ne (h : enter? s target = some (inner, put)) (hne : t ≠ s) (w : Json) :
    step? t (put w) = step? t target := by
  rcases enter?_cases h with ⟨name, entries, rfl, hrecord, _, rfl⟩ | ⟨n, items, rfl, rfl, _, rfl⟩
  · rw [step?_of_record? hrecord]
    cases t with
    | key other => exact Object.get?_insert_of_ne (fun he => hne (congrArg _ he)) w entries
    | index m => rfl
  · cases t with
    | key other => rfl
    | index m => exact List.getElem?_set_ne fun he => hne (congrArg _ he.symm)

/-- What was put is found on entering again, and what is put then takes its place. -/
theorem enter?_put (h : enter? s target = some (inner, put)) (w : Json) :
    enter? s (put w) = some (w, put) := by
  rcases enter?_cases h with ⟨name, entries, rfl, _, _, rfl⟩ | ⟨n, items, rfl, _, hitem, rfl⟩
  · simp [enter?, record?, Object.get?_insert_self, Object.insert_insert]
  · obtain ⟨hlt, _⟩ := List.getElem?_eq_some_iff.mp hitem
    simp [enter?, hlt]

/-- A write enters whatever can be read, and putting it back changes nothing. -/
theorem enter?_of_step? (h : step? s target = some v) :
    ∃ put, enter? s target = some (v, put) ∧ (target.Ordered → put v = target) := by
  cases s with
  | key name =>
      cases target with
      | obj entries =>
          have hget : Object.get? name entries = some v := h
          exact ⟨fun w => .obj (Object.insert name w entries), by simp [enter?, record?, hget],
            fun ho => congrArg _ (Object.insert_of_get? ho.1 hget)⟩
      | _ => cases h
  | index n =>
      cases target with
      | arr items =>
          have hitem : items[n]? = some v := h
          obtain ⟨hlt, rfl⟩ := List.getElem?_eq_some_iff.mp hitem
          exact ⟨fun w => .arr (items.set n w), by simp [enter?, hlt], by simp⟩
      | _ => cases h

/-- Two different steps from one value can be taken in any order. -/
theorem enter?_comm {inner' : Json} {put' : Json → Json} (hne : s ≠ t)
    (hs : enter? s target = some (inner, put)) (ht : enter? t target = some (inner', put'))
    (w w' : Json) :
    ∃ both both', enter? t (put w) = some (inner', both) ∧
      enter? s (put' w') = some (inner, both') ∧ both w' = both' w := by
  rcases enter?_cases hs with ⟨name, entries, rfl, hrecord, rfl, rfl⟩ | ⟨n, items, rfl, rfl, hn, rfl⟩
  · rcases enter?_cases ht with ⟨other, _, rfl, hrecord', rfl, rfl⟩ | ⟨m, _, _, rfl, _, _⟩
    · have hname : name ≠ other := fun he => hne (congrArg _ he)
      cases hrecord.symm.trans hrecord'
      refine ⟨fun x => .obj (Object.insert other x (Object.insert name w entries)),
        fun x => .obj (Object.insert name x (Object.insert other w' entries)), ?_, ?_, ?_⟩
      · simp [enter?, record?, Object.get?_insert_of_ne hname.symm]
      · simp [enter?, record?, Object.get?_insert_of_ne hname]
      · exact congrArg _ (Object.insert_comm hname.symm w' w entries)
    · cases hrecord
  · rcases enter?_cases ht with ⟨_, _, _, hrecord, _, _⟩ | ⟨m, _, rfl, he, hm, rfl⟩
    · cases hrecord
    · cases he
      have hindex : n ≠ m := fun he => hne (congrArg _ he)
      refine ⟨fun x => .arr ((items.set n w).set m x), fun x => .arr ((items.set m w').set n x),
        ?_, ?_, ?_⟩
      · simp [enter?, List.getElem?_set_ne hindex, hm]
      · simp [enter?, List.getElem?_set_ne hindex.symm, hn]
      · exact congrArg _ (List.set_comm w w' hindex)

/-! ## Some steps -/

/-- Reading some steps away is reading one step away, and then the other ones. -/
theorem follow?_cons (s : Segment) (rest : List Segment) (v : Json) :
    follow? (s :: rest) v = (step? s v).bind (follow? rest) := by
  cases s with
  | key name => cases v <;> rfl
  | index n => cases v <;> rfl

theorem follow?_append (front back : List Segment) (v : Json) :
    follow? (front ++ back) v = (follow? front v).bind (follow? back) := by
  induction front generalizing v with
  | nil => rfl
  | cons s rest ih =>
      rw [List.cons_append, follow?_cons, follow?_cons, Option.bind_assoc]
      exact congrArg _ (funext ih)

/-- A write enters what can be read, or `null` where there is nothing. -/
theorem step?_of_enter? (h : enter? s target = some (inner, put)) :
    step? s target = some inner ∨ step? s target = none ∧ inner = .null := by
  rcases enter?_cases h with ⟨name, entries, rfl, hrecord, rfl, _⟩ | ⟨n, items, rfl, rfl, hitem, _⟩
  · rw [step?_of_record? hrecord]
    cases hget : Object.get? name entries with
    | some v => exact Or.inl hget
    | none => exact Or.inr ⟨hget, rfl⟩
  · exact Or.inl hitem

/-- Beyond the first step, what is read is what is read in the value that a write enters. -/
theorem follow?_enter? {rest : List Segment} (h : enter? s target = some (inner, put))
    (hrest : rest ≠ []) : follow? (s :: rest) target = follow? rest inner := by
  rw [follow?_cons]
  rcases step?_of_enter? h with hstep | ⟨hstep, rfl⟩
  · rw [hstep, Option.bind_some]
  · obtain ⟨r, rest, rfl⟩ := List.exists_cons_of_ne_nil hrest
    rw [hstep, follow?_cons]
    cases r <;> rfl

/-- A write enters its first step and goes on from there. -/
theorem write_cons_eq_ok {path : String} {rest : List Segment} {result : Json} :
    write path v (s :: rest) target = .ok result ↔
      ∃ inner put w, enter? s target = some (inner, put) ∧
        write path v rest inner = .ok w ∧ result = put w := by
  constructor
  · intro h
    cases s with
    | key name =>
        cases target with
        | obj entries =>
            obtain ⟨w, hw, he⟩ := bind_eq_ok h
            cases he
            exact ⟨_, _, w, rfl, hw, rfl⟩
        | null =>
            obtain ⟨w, hw, he⟩ := bind_eq_ok h
            cases he
            exact ⟨_, _, w, rfl, hw, rfl⟩
        | _ => cases h
    | index n =>
        cases target with
        | arr items =>
            simp only [write] at h
            cases hitem : items[n]? with
            | none => simp [hitem] at h
            | some item =>
                simp only [hitem] at h
                obtain ⟨w, hw, he⟩ := bind_eq_ok h
                cases he
                exact ⟨item, _, w, by simp only [enter?, hitem]; rfl, hw, rfl⟩
        | _ => cases h
  · rintro ⟨inner, put, w, henter, hw, rfl⟩
    rcases enter?_cases henter with
      ⟨name, entries, rfl, hrecord, rfl, rfl⟩ | ⟨n, items, rfl, rfl, hitem, rfl⟩
    · rcases record?_eq_some hrecord with rfl | ⟨rfl, rfl⟩
      · simp [write, hw]
      · rw [Object.get?_nil, Option.getD_none] at hw
        simp [write, hw, Object.insert]
    · simp [write, hitem, hw]

end Json

/-! ## Where a write succeeds -/

/-- Whether a step can be taken by a write from where it is: by name from an object, `null` or
nothing, by index from a list that has that index. -/
def Segment.Meets : Segment → Option Json → Prop
  | .key _, found => found = none ∨ found = some .null ∨ ∃ entries, found = some (.obj entries)
  | .index n, found => ∃ items, found = some (.arr items) ∧ n < items.length

namespace Json

variable {s t : Segment} {v w target inner result : Json} {put : Json → Json}
variable {path path' : String} {p q : List Segment}

theorem exists_enter?_iff :
    (∃ inner put, enter? s target = some (inner, put)) ↔ s.Meets (some target) := by
  cases s with
  | key name => cases target <;> simp [enter?, record?, Segment.Meets]
  | index n => cases target <;> simp [enter?, Segment.Meets, List.getElem?_eq_some_iff]

/-- Nothing is as good as `null` for the next step. -/
theorem meets_none_iff : s.Meets none ↔ s.Meets (some .null) := by
  cases s <;> simp [Segment.Meets]

/-- A step meets the same in the whole value as in the value that was entered. -/
theorem meets_follow?_cons {front : List Segment} (h : enter? s target = some (inner, put)) :
    t.Meets (follow? (s :: front) target) ↔ t.Meets (follow? front inner) := by
  cases front with
  | nil =>
      rw [follow?_cons]
      rcases step?_of_enter? h with hstep | ⟨hstep, rfl⟩
      · rw [hstep]
        rfl
      · rw [hstep]
        exact meets_none_iff
  | cons r rest => rw [follow?_enter? h (List.cons_ne_nil r rest)]

/-- A write succeeds exactly if each of its steps can be taken. -/
theorem exists_write_iff :
    (∃ result, write path v p target = .ok result) ↔
      ∀ front s back, p = front ++ s :: back → s.Meets (follow? front target) := by
  induction p generalizing target with
  | nil => exact ⟨fun _ front s back h => by simp at h, fun _ => ⟨v, rfl⟩⟩
  | cons r rest ih =>
      constructor
      · rintro ⟨result, h⟩ front s back he
        obtain ⟨inner, put, w, henter, hw, _⟩ := write_cons_eq_ok.mp h
        cases front with
        | nil =>
            cases he
            exact exists_enter?_iff.mp ⟨inner, put, henter⟩
        | cons f front =>
            cases he
            exact (meets_follow?_cons henter).mpr (ih.mp ⟨w, hw⟩ front s back rfl)
      · intro h
        obtain ⟨inner, put, henter⟩ := exists_enter?_iff.mpr (h [] r rest rfl)
        obtain ⟨w, hw⟩ := ih.mpr fun front s back he =>
          (meets_follow?_cons henter).mp (h (r :: front) s back (he ▸ rfl))
        exact ⟨put w, write_cons_eq_ok.mpr ⟨inner, put, w, henter, hw, rfl⟩⟩

/-! ## Laws of reading and writing -/

/-- What was written is read. -/
theorem follow?_write (h : write path v p target = .ok result) : follow? p result = some v := by
  induction p generalizing target result with
  | nil =>
      cases h
      rfl
  | cons s rest ih =>
      obtain ⟨inner, put, w, henter, hw, rfl⟩ := write_cons_eq_ok.mp h
      rw [follow?_cons, step?_put henter, Option.bind_some]
      exact ih hw

/-- Neither of two ways leads into the other. -/
def Apart (p q : List Segment) : Prop := ¬p <+: q ∧ ¬q <+: p

theorem apart_cons_self : Apart (s :: p) (s :: q) ↔ Apart p q := by
  simp [Apart]

theorem Apart.ne_nil (h : Apart p q) : p ≠ [] ∧ q ≠ [] :=
  ⟨fun he => h.1 (he ▸ List.nil_prefix), fun he => h.2 (he ▸ List.nil_prefix)⟩

/-- A write changes nothing apart from where it writes. -/
theorem follow?_write_of_apart (hpq : Apart p q) (h : write path v p target = .ok result) :
    follow? q result = follow? q target := by
  induction p generalizing q target result with
  | nil => exact absurd rfl hpq.ne_nil.1
  | cons s rest ih =>
      obtain ⟨inner, put, w, henter, hw, rfl⟩ := write_cons_eq_ok.mp h
      obtain ⟨t, other, rfl⟩ := List.exists_cons_of_ne_nil hpq.ne_nil.2
      by_cases hst : t = s
      · subst hst
        have hrest := apart_cons_self.mp hpq
        rw [follow?_cons, step?_put henter, Option.bind_some, ih hrest hw,
          follow?_enter? henter hrest.ne_nil.2]
      · rw [follow?_cons, step?_put_of_ne henter hst, follow?_cons]

/-- After a write, another one to the same place gives what it gives without the first. -/
theorem write_write_iff {last : Json} (h : write path v p target = .ok result) :
    write path' w p result = .ok last ↔ write path' w p target = .ok last := by
  induction p generalizing target result last with
  | nil => rfl
  | cons s rest ih =>
      obtain ⟨inner, put, x, henter, hx, rfl⟩ := write_cons_eq_ok.mp h
      rw [write_cons_eq_ok, write_cons_eq_ok, enter?_put henter, henter]
      constructor
      · rintro ⟨_, _, y, he, hy, rfl⟩
        cases he
        exact ⟨inner, put, y, rfl, (ih hx).mp hy, rfl⟩
      · rintro ⟨_, _, y, he, hy, rfl⟩
        cases he
        exact ⟨x, put, y, rfl, (ih hx).mpr hy, rfl⟩

/-- What is one step away in an ordered value is ordered. -/
theorem Ordered.step? (ho : target.Ordered) (h : step? s target = some v) : v.Ordered := by
  cases s with
  | key name =>
      cases target with
      | obj entries => exact entriesOrdered_iff.mp ho.2 _ (Object.mem_of_get? h)
      | _ => cases h
  | index n =>
      cases target with
      | arr items => exact allOrdered_iff.mp ho v (List.mem_of_getElem? h)
      | _ => cases h

/-- Writing what is there changes nothing. -/
theorem write_of_follow? (ho : target.Ordered) (h : follow? p target = some v) :
    write path v p target = .ok target := by
  induction p generalizing target with
  | nil =>
      cases h
      rfl
  | cons s rest ih =>
      rw [follow?_cons] at h
      obtain ⟨inner, hstep, hrest⟩ := Option.bind_eq_some_iff.mp h
      obtain ⟨put, henter, hput⟩ := enter?_of_step? hstep
      exact write_cons_eq_ok.mpr
        ⟨inner, put, inner, henter, ih (Ordered.step? ho hstep) hrest, (hput ho).symm⟩

/-- Writes apart from each other can be made in any order. -/
theorem write_comm {other : Json} (hpq : Apart p q) (hp : write path v p target = .ok result)
    (hq : write path' w q target = .ok other) :
    ∃ both, write path' w q result = .ok both ∧ write path v p other = .ok both := by
  induction p generalizing q target result other with
  | nil => exact absurd rfl hpq.ne_nil.1
  | cons s rest ih =>
      obtain ⟨inner, put, x, henter, hx, rfl⟩ := write_cons_eq_ok.mp hp
      obtain ⟨t, others, rfl⟩ := List.exists_cons_of_ne_nil hpq.ne_nil.2
      obtain ⟨inner', put', y, henter', hy, rfl⟩ := write_cons_eq_ok.mp hq
      by_cases hst : s = t
      · -- Both enter the same value, and part further on.
        subst hst
        cases henter.symm.trans henter'
        obtain ⟨both, hboth, hboth'⟩ := ih (apart_cons_self.mp hpq) hx hy
        exact ⟨put both,
          write_cons_eq_ok.mpr ⟨x, put, both, enter?_put henter x, hboth, rfl⟩,
          write_cons_eq_ok.mpr ⟨y, put, both, enter?_put henter y, hboth', rfl⟩⟩
      · obtain ⟨both, both', ht, hs, he⟩ := enter?_comm hst henter henter' x y
        exact ⟨both y,
          write_cons_eq_ok.mpr ⟨inner', both, y, ht, hy, rfl⟩,
          write_cons_eq_ok.mpr ⟨inner, both', x, hs, hx, he⟩⟩

/-- Finding a value to be changed is reading it, and keeping in mind how to put another there. -/
theorem focus?_cons_eq_some {rest : List Segment} :
    focus? (s :: rest) target = some (v, put) ↔
      ∃ inner outer back, step? s target = some inner ∧ enter? s target = some (inner, outer) ∧
        focus? rest inner = some (v, back) ∧ put = fun w => outer (back w) := by
  constructor
  · intro h
    cases s with
    | key name =>
        cases target with
        | obj entries =>
            simp only [focus?, Option.bind_eq_bind, Option.bind_eq_some_iff] at h
            obtain ⟨inner, hget, ⟨x, back⟩, hback, he⟩ := h
            cases he
            exact ⟨inner, fun w => .obj (Object.insert name w entries), back, hget,
              by simp [enter?, record?, hget], hback, rfl⟩
        | _ => cases h
    | index n =>
        cases target with
        | arr items =>
            simp only [focus?, Option.bind_eq_bind, Option.bind_eq_some_iff] at h
            obtain ⟨inner, hitem, ⟨x, back⟩, hback, he⟩ := h
            cases he
            exact ⟨inner, fun w => .arr (items.set n w), back, hitem,
              by simp [enter?, hitem], hback, rfl⟩
        | _ => cases h
  · rintro ⟨inner, outer, back, hstep, henter, hback, rfl⟩
    rcases enter?_cases henter with
      ⟨name, entries, rfl, hrecord, _, rfl⟩ | ⟨n, items, rfl, rfl, hitem, rfl⟩
    · rcases record?_eq_some hrecord with rfl | ⟨rfl, rfl⟩
      · have hget : Object.get? name entries = some inner := hstep
        simp [focus?, hget, hback]
      · cases hstep
    · simp [focus?, hitem, hback]

/-- What is found to be changed is what is read. -/
theorem follow?_of_focus? (h : focus? p target = some (v, put)) : follow? p target = some v := by
  induction p generalizing target put with
  | nil =>
      cases h
      rfl
  | cons s rest ih =>
      obtain ⟨inner, outer, back, hstep, _, hback, _⟩ := focus?_cons_eq_some.mp h
      rw [follow?_cons, hstep, Option.bind_some, ih hback]

/-- Putting something in place of what was found is writing it. -/
theorem write_of_focus? (h : focus? p target = some (v, put)) (w : Json) :
    write path w p target = .ok (put w) := by
  induction p generalizing target put with
  | nil =>
      cases h
      rfl
  | cons s rest ih =>
      obtain ⟨inner, outer, back, _, henter, hback, rfl⟩ := focus?_cons_eq_some.mp h
      exact write_cons_eq_ok.mpr ⟨inner, outer, back w, henter, ih hback, rfl⟩

/-- Whatever is read is found to be changed. -/
theorem exists_focus? (h : follow? p target = some v) : ∃ put, focus? p target = some (v, put) := by
  induction p generalizing target with
  | nil =>
      cases h
      exact ⟨id, rfl⟩
  | cons s rest ih =>
      rw [follow?_cons] at h
      obtain ⟨inner, hstep, hrest⟩ := Option.bind_eq_some_iff.mp h
      obtain ⟨back, hback⟩ := ih hrest
      obtain ⟨outer, henter, _⟩ := enter?_of_step? hstep
      exact ⟨_, focus?_cons_eq_some.mpr ⟨inner, outer, back, hstep, henter, hback, rfl⟩⟩

end Json

/-! ## Laws of field paths -/

namespace FieldPath

variable {p q : FieldPath} {data after : Object} {v w : Json}

/-- The path that leads on by some steps. -/
def extend (p : FieldPath) (steps : List Segment) : FieldPath := ⟨p.head, p.steps ++ steps⟩

/-- Neither of two paths is the beginning of the other. -/
def Apart (p q : FieldPath) : Prop := Json.Apart p.segments q.segments

/-- Whether each step of a path can be taken by a write, from what the steps before it lead to. -/
def Writable (p : FieldPath) (data : Object) : Prop :=
  ∀ front s back, p.segments = front ++ s :: back → s.Meets (Json.follow? front (.obj data))

/-- Writing at a path is writing some steps away in the object of the data. -/
theorem set_eq_ok :
    p.set v data = .ok after ↔
      Json.write p.text v p.segments (.obj data) = .ok (.obj after) := by
  constructor
  · intro h
    unfold set at h
    split at h
    next result hwrite =>
      cases h
      obtain ⟨inner, put, x, henter, _, rfl⟩ := Json.write_cons_eq_ok.mp hwrite
      cases henter
      exact hwrite
    next => cases h
  · intro h
    rw [set, h]
    rfl

theorem exists_set_iff : (∃ after, p.set v data = .ok after) ↔ p.Writable data := by
  constructor
  · rintro ⟨after, h⟩
    exact Json.exists_write_iff.mp ⟨_, set_eq_ok.mp h⟩
  · intro h
    obtain ⟨result, hwrite⟩ : ∃ result, Json.write p.text v p.segments (.obj data) = .ok result :=
      Json.exists_write_iff.mpr h
    exact ⟨result.entries, by rw [set, hwrite]⟩

/-- What was set is read. -/
theorem get?_set (h : p.set v data = .ok after) : p.get? after = some v :=
  Json.follow?_write (set_eq_ok.mp h)

/-- Setting leaves what is at every other place that does not contain it. -/
theorem get?_set_of_apart (hpq : p.Apart q) (h : p.set v data = .ok after) :
    q.get? after = q.get? data :=
  Json.follow?_write_of_apart hpq (set_eq_ok.mp h)

/-- What is read inside the value that was set is what it holds. -/
theorem get?_extend_set (steps : List Segment) (h : p.set v data = .ok after) :
    (p.extend steps).get? after = Json.follow? steps v := by
  have hread : Json.follow? p.segments (.obj after) = some v := get?_set h
  show Json.follow? (p.segments ++ steps) (.obj after) = Json.follow? steps v
  rw [Json.follow?_append, hread, Option.bind_some]

/-- Of two settings of one place the second wins. -/
theorem set_set (h : p.set v data = .ok after) (w : Json) :
    ∃ last, p.set w after = .ok last ∧ p.set w data = .ok last := by
  obtain ⟨last, hlast⟩ : ∃ last, p.set w data = .ok last :=
    exists_set_iff.mpr (exists_set_iff.mp ⟨after, h⟩)
  refine ⟨last, ?_, hlast⟩
  exact set_eq_ok.mpr ((Json.write_write_iff (set_eq_ok.mp h)).mpr (set_eq_ok.mp hlast))

/-- Setting what is there already changes nothing. -/
theorem set_get? (ho : (Json.obj data).Ordered) (h : p.get? data = some v) :
    p.set v data = .ok data :=
  set_eq_ok.mpr (Json.write_of_follow? ho h)

/-- Places apart from each other can be set in any order. -/
theorem set_comm {other : Object} (hpq : p.Apart q) (hp : p.set v data = .ok after)
    (hq : q.set w data = .ok other) :
    ∃ both, q.set w after = .ok both ∧ p.set v other = .ok both := by
  obtain ⟨both, hqboth, hpboth⟩ := Json.write_comm hpq (set_eq_ok.mp hp) (set_eq_ok.mp hq)
  have hobj : both = .obj both.entries := by
    obtain ⟨inner, put, x, henter, _, rfl⟩ := Json.write_cons_eq_ok.mp hpboth
    cases henter
    rfl
  rw [hobj] at hqboth hpboth
  exact ⟨both.entries, set_eq_ok.mpr hqboth, set_eq_ok.mpr hpboth⟩

/-- A value is found to be changed exactly where one is read, and it is that one. -/
theorem get?_eq_some_iff_focus? : p.get? data = some v ↔ ∃ put, p.focus? data = some (v, put) := by
  constructor
  · intro h
    obtain ⟨put, hput⟩ := Json.exists_focus? h
    exact ⟨_, by rw [focus?, hput]; rfl⟩
  · rintro ⟨put, h⟩
    obtain ⟨⟨x, back⟩, hfound, he⟩ := Option.map_eq_some_iff.mp h
    cases he
    exact Json.follow?_of_focus? hfound

/-- Putting something in place of a value that was found is setting it. -/
theorem set_of_focus? {put : Json → Object} (h : p.focus? data = some (v, put)) (w : Json) :
    p.set w data = .ok (put w) := by
  obtain ⟨⟨x, back⟩, hfound, he⟩ := Option.map_eq_some_iff.mp h
  cases he
  rw [set, Json.write_of_focus? hfound w]

/-- Setting a place succeeds exactly if its steps can be taken.  Then the value is read there, and
so is what it holds inside; every place apart from it is as it was; a second setting gives what it
gives alone; and places apart from each other can be set in any order.  Setting what is there
changes nothing, where objects are sorted by key as they are in data.  What is found to be changed
is what is read, and putting something there is setting it. -/
theorem lens (p : FieldPath) (data : Object) (v : Json) :
    ((∃ after, p.set v data = .ok after) ↔ p.Writable data) ∧
    (∀ after, p.set v data = .ok after →
      p.get? after = some v ∧
      (∀ steps, (p.extend steps).get? after = Json.follow? steps v) ∧
      (∀ q : FieldPath, p.Apart q → q.get? after = q.get? data) ∧
      (∀ w, ∃ last, p.set w after = .ok last ∧ p.set w data = .ok last) ∧
      (∀ (q : FieldPath) w other, p.Apart q → q.set w data = .ok other →
        ∃ both, q.set w after = .ok both ∧ p.set v other = .ok both)) ∧
    ((Json.obj data).Ordered → p.get? data = some v → p.set v data = .ok data) ∧
    (p.get? data = some v ↔ ∃ put, p.focus? data = some (v, put)) ∧
    (∀ put, p.focus? data = some (v, put) → ∀ w, p.set w data = .ok (put w)) := by
  refine ⟨exists_set_iff, fun after h => ?_, set_get?, get?_eq_some_iff_focus?,
    fun put h => set_of_focus? h⟩
  refine ⟨get?_set h, fun steps => get?_extend_set steps h, fun q hpq => get?_set_of_apart hpq h,
    fun w => set_set h w, fun q w other hpq hq => set_comm hpq h hq⟩

/-- A title is written into an item that is `null`, and the item before it stays. -/
theorem lens_nested :
    ∃ after, FieldPath.set ⟨"rows", [.index 1, .key "title"]⟩ (.str "b")
        [("rows", .arr [.str "a", .null])] = .ok after ∧
      FieldPath.get? ⟨"rows", [.index 1, .key "title"]⟩ after = some (.str "b") ∧
      FieldPath.get? ⟨"rows", [.index 0]⟩ after = some (.str "a") := by
  have hset : FieldPath.set ⟨"rows", [.index 1, .key "title"]⟩ (.str "b")
      [("rows", .arr [.str "a", .null])] =
        .ok [("rows", .arr [.str "a", .obj [("title", .str "b")]])] := rfl
  obtain ⟨hread, _, hother, _⟩ := (lens _ _ _).2.1 _ hset
  refine ⟨_, hset, hread, ?_⟩
  have hapart : FieldPath.Apart ⟨"rows", [.index 1, .key "title"]⟩ ⟨"rows", [.index 0]⟩ := by
    simp [Apart, Json.Apart, segments]
  exact (hother _ hapart).trans rfl

end FieldPath

end PageBuilder
