import Mathlib.Data.String.Basic
import PageBuilder.Json.Numeral
import PageBuilder.Path.Access

/-!
# Values that can be stored

A value is *storable* if its objects are sorted by key and its integers fit in 64 bits.  These are
the values that there are: whatever is read from a text is storable, and so is what operations make
of storable values.  This module has the predicate and what it says of lists and objects, and shows
that it is kept by what writes into a value.
-/

namespace PageBuilder

/-- A computation that succeeds does so step by step. -/
theorem bind_eq_ok {ε α β : Type} {x : Except ε α} {f : α → Except ε β} {b : β}
    (h : (x >>= f) = .ok b) : ∃ a, x = .ok a ∧ f a = .ok b := by
  cases x with
  | error e => cases h
  | ok a => exact ⟨a, rfl, h⟩

@[simp] theorem ok_bind {ε α β : Type} (a : α) (f : α → Except ε β) :
    (Except.ok a >>= f) = f a := rfl

@[simp] theorem error_bind {ε α β : Type} (e : ε) (f : α → Except ε β) :
    (Except.error e >>= f) = .error e := rfl

@[simp] theorem map_ok {ε α β : Type} (f : α → β) (a : α) :
    f <$> (Except.ok a : Except ε α) = .ok (f a) := rfl

/-! ## Numbers -/

/-- Whether a number is a double, or an integer that fits in 64 bits. -/
def Number.Fits : Number → Prop
  | .int n => signedRange.1 ≤ n ∧ n ≤ maxWord
  | .float _ => True

/-- Whether a number is an integer. -/
def Number.IsInt : Number → Prop
  | .int _ => True
  | .float _ => False

/-- Whether a number is an integer that fits in 64 bits. -/
def Number.Exact (n : Number) : Prop := n.IsInt ∧ n.Fits

theorem Number.exact_nat {n : Nat} (h : n ≤ maxWord) : Number.Exact (.int n) :=
  ⟨trivial, Int.le_trans (by decide) (Int.natCast_nonneg n), by exact_mod_cast h⟩

namespace Json

mutual

/-- Every number in the value is as `p` says. -/
def Numbers (p : Number → Prop) : Json → Prop
  | .num n => p n
  | .arr items => NumbersOfItems p items
  | .obj entries => NumbersOfEntries p entries
  | _ => True

/-- Every number in the items is as `p` says. -/
def NumbersOfItems (p : Number → Prop) : List Json → Prop
  | [] => True
  | v :: rest => v.Numbers p ∧ NumbersOfItems p rest

/-- Every number in the entries is as `p` says. -/
def NumbersOfEntries (p : Number → Prop) : List (String × Json) → Prop
  | [] => True
  | (_, v) :: rest => v.Numbers p ∧ NumbersOfEntries p rest

end

instance : DecidablePred Number.IsInt
  | .int _ => isTrue trivial
  | .float _ => isFalse id

mutual

instance decideNumbers (p : Number → Prop) [DecidablePred p] : (v : Json) → Decidable (v.Numbers p)
  | .null | .bool _ | .str _ => isTrue trivial
  | .num n => inferInstanceAs (Decidable (p n))
  | .arr items => decideNumbersOfItems p items
  | .obj entries => decideNumbersOfEntries p entries

instance decideNumbersOfItems (p : Number → Prop) [DecidablePred p] :
    (items : List Json) → Decidable (NumbersOfItems p items)
  | [] => isTrue trivial
  | v :: rest => @instDecidableAnd _ _ (decideNumbers p v) (decideNumbersOfItems p rest)

instance decideNumbersOfEntries (p : Number → Prop) [DecidablePred p] :
    (entries : List (String × Json)) → Decidable (NumbersOfEntries p entries)
  | [] => isTrue trivial
  | (_, v) :: rest => @instDecidableAnd _ _ (decideNumbers p v) (decideNumbersOfEntries p rest)

end

/-- A value as it can be stored. -/
structure Storable (v : Json) : Prop where
  ordered : v.Ordered
  fits : v.Numbers Number.Fits

mutual

theorem Numbers.exact : ∀ {v : Json}, v.Numbers Number.IsInt → v.Numbers Number.Fits →
    v.Numbers Number.Exact
  | .null, _, _ | .bool _, _, _ | .str _, _, _ => trivial
  | .num _, hint, hfits => ⟨hint, hfits⟩
  | .arr _, hint, hfits => NumbersOfItems.exact hint hfits
  | .obj _, hint, hfits => NumbersOfEntries.exact hint hfits

theorem NumbersOfItems.exact : ∀ {items : List Json}, NumbersOfItems Number.IsInt items →
    NumbersOfItems Number.Fits items → NumbersOfItems Number.Exact items
  | [], _, _ => trivial
  | _ :: _, hint, hfits => ⟨Numbers.exact hint.1 hfits.1, NumbersOfItems.exact hint.2 hfits.2⟩

theorem NumbersOfEntries.exact : ∀ {entries : Object}, NumbersOfEntries Number.IsInt entries →
    NumbersOfEntries Number.Fits entries → NumbersOfEntries Number.Exact entries
  | [], _, _ => trivial
  | _ :: _, hint, hfits => ⟨Numbers.exact hint.1 hfits.1, NumbersOfEntries.exact hint.2 hfits.2⟩

end

/-! ## Lists and objects -/

section

variable {p : Number → Prop} {items : List Json} {entries : Object}

theorem numbersOfItems_iff : NumbersOfItems p items ↔ ∀ v ∈ items, v.Numbers p := by
  induction items with
  | nil => simp [NumbersOfItems]
  | cons v rest ih => simp [NumbersOfItems, ih]

theorem numbersOfEntries_iff : NumbersOfEntries p entries ↔ ∀ e ∈ entries, e.2.Numbers p := by
  induction entries with
  | nil => simp [NumbersOfEntries]
  | cons e rest ih => simp [NumbersOfEntries, ih]

theorem allOrdered_iff : AllOrdered items ↔ ∀ v ∈ items, v.Ordered := by
  induction items with
  | nil => simp [AllOrdered]
  | cons v rest ih => simp [AllOrdered, ih]

theorem entriesOrdered_iff : EntriesOrdered entries ↔ ∀ e ∈ entries, e.2.Ordered := by
  induction entries with
  | nil => simp [EntriesOrdered]
  | cons e rest ih => simp [EntriesOrdered, ih]

@[simp] theorem numbers_arr : (arr items).Numbers p ↔ ∀ v ∈ items, v.Numbers p := by
  rw [Numbers, numbersOfItems_iff]

@[simp] theorem numbers_obj : (obj entries).Numbers p ↔ ∀ e ∈ entries, e.2.Numbers p := by
  rw [Numbers, numbersOfEntries_iff]

@[simp] theorem storable_null : Storable null := ⟨trivial, trivial⟩

@[simp] theorem storable_bool (b : Bool) : Storable (bool b) := ⟨trivial, trivial⟩

@[simp] theorem storable_str (s : String) : Storable (str s) := ⟨trivial, trivial⟩

@[simp] theorem storable_num {n : Number} : Storable (num n) ↔ n.Fits :=
  ⟨fun h => h.fits, fun h => ⟨trivial, h⟩⟩

@[simp] theorem storable_nat {n : Nat} : Storable (nat n) ↔ n ≤ maxWord := by
  have hrange : signedRange.1 ≤ (n : Int) := Int.le_trans (by decide) (Int.natCast_nonneg n)
  simp [nat, Number.Fits, hrange]

@[simp] theorem storable_arr : Storable (arr items) ↔ ∀ v ∈ items, v.Storable := by
  constructor
  · intro h v hv
    exact ⟨allOrdered_iff.mp h.ordered v hv, numbers_arr.mp h.fits v hv⟩
  · intro h
    exact ⟨allOrdered_iff.mpr fun v hv => (h v hv).ordered,
      numbers_arr.mpr fun v hv => (h v hv).fits⟩

theorem storable_obj :
    Storable (obj entries) ↔ Object.Sorted entries ∧ ∀ e ∈ entries, e.2.Storable := by
  constructor
  · intro h
    exact ⟨h.ordered.1, fun e he =>
      ⟨entriesOrdered_iff.mp h.ordered.2 e he, numbers_obj.mp h.fits e he⟩⟩
  · rintro ⟨hsorted, h⟩
    exact ⟨⟨hsorted, entriesOrdered_iff.mpr fun e he => (h e he).ordered⟩,
      numbers_obj.mpr fun e he => (h e he).fits⟩

end

end Json

/-! ## Entries -/

namespace Object

variable {o : Object} {key : String} {value : Json}

theorem mem_of_get? (h : o.get? key = some value) : (key, value) ∈ o := by
  induction o with
  | nil => cases h
  | cons e rest ih =>
      obtain ⟨k, v⟩ := e
      by_cases hk : k = key
      · simp only [get?, if_pos hk, Option.some.injEq] at h
        rw [hk, h]
        exact List.mem_cons_self
      · rw [get?, if_neg hk] at h
        exact List.mem_cons_of_mem _ (ih h)

theorem mem_insert {e : String × Json} (h : e ∈ insert key value o) : e = (key, value) ∨ e ∈ o := by
  induction o with
  | nil => exact Or.inl (List.mem_singleton.mp h)
  | cons first rest ih =>
      obtain ⟨k, v⟩ := first
      rw [insert] at h
      split_ifs at h
      · rcases List.mem_cons.mp h with he | hr
        · exact Or.inl he
        · exact Or.inr (List.mem_cons_of_mem _ hr)
      · exact List.mem_cons.mp h
      · rcases List.mem_cons.mp h with he | hr
        · exact Or.inr (he ▸ List.mem_cons_self)
        · exact (ih hr).imp id (List.mem_cons_of_mem _)

/-- An insertion keeps the keys sorted. -/
theorem Sorted.insert (h : Sorted o) (key : String) (value : Json) :
    Sorted (Object.insert key value o) := by
  induction o with
  | nil => exact List.pairwise_singleton _ _
  | cons first rest ih =>
      obtain ⟨k, v⟩ := first
      obtain ⟨hfirst, hrest⟩ := List.pairwise_cons.mp h
      rw [Object.insert]
      split_ifs with hk hlt
      · subst hk
        exact List.pairwise_cons.mpr ⟨hfirst, hrest⟩
      · refine List.pairwise_cons.mpr ⟨fun e he => ?_, h⟩
        rcases List.mem_cons.mp he with heq | hr
        · exact heq ▸ hlt
        · exact lt_trans hlt (hfirst e hr)
      · refine List.pairwise_cons.mpr ⟨fun e he => ?_, ih hrest⟩
        rcases mem_insert he with heq | hr
        · exact heq ▸ lt_of_le_of_ne (not_lt.mp hlt) hk
        · exact hfirst e hr

/-- An entry beyond all others is put at the end. -/
theorem insert_of_forall_lt (h : ∀ e ∈ o, e.1 < key) :
    insert key value o = o ++ [(key, value)] := by
  induction o with
  | nil => rfl
  | cons first rest ih =>
      obtain ⟨k, v⟩ := first
      have hlt : k < key := h (k, v) List.mem_cons_self
      rw [insert, if_neg (ne_of_lt hlt), if_neg (lt_asymm hlt),
        ih fun e he => h e (List.mem_cons_of_mem _ he)]
      rfl

/-- A sorted object is what its entries make. -/
theorem Sorted.ofList_eq (h : Sorted o) : ofList o = o := by
  have hfold : ∀ xs front : Object, Sorted (front ++ xs) →
      xs.foldl (fun o e => Object.insert e.1 e.2 o) front = front ++ xs := by
    intro xs
    induction xs with
    | nil => exact fun front _ => (List.append_nil front).symm
    | cons e rest ih =>
        intro front hsorted
        obtain ⟨k, v⟩ := e
        have hlt : ∀ x ∈ front, x.1 < k := fun x hx =>
          (List.pairwise_append.mp hsorted).2.2 x hx (k, v) List.mem_cons_self
        simp only [List.foldl_cons]
        rw [ insert_of_forall_lt hlt, ih, List.append_assoc]
        · rfl
        · rwa [List.append_assoc]
  exact hfold o [] h

end Object

/-! ## Storable objects -/

namespace Json.Storable

variable {o : Object} {key : String} {value : Json}

theorem insert (h : Storable (.obj o)) (key : String) (hv : value.Storable) :
    Storable (.obj (Object.insert key value o)) := by
  obtain ⟨hsorted, hall⟩ := storable_obj.mp h
  refine storable_obj.mpr ⟨hsorted.insert key value, fun e he => ?_⟩
  rcases Object.mem_insert he with heq | ho
  · exact heq ▸ hv
  · exact hall e ho

theorem get? (h : Storable (.obj o)) (hv : o.get? key = some value) : value.Storable :=
  (storable_obj.mp h).2 _ (Object.mem_of_get? hv)

theorem empty : Storable (.obj []) := storable_obj.mpr ⟨List.Pairwise.nil, fun _ h => by cases h⟩

theorem ofList {entries : List (String × Json)} (h : ∀ e ∈ entries, e.2.Storable) :
    Storable (.obj (Object.ofList entries)) := by
  have hfold : ∀ o : Object, Storable (.obj o) →
      Storable (.obj (entries.foldl (fun o e => Object.insert e.1 e.2 o) o)) := by
    induction entries with
    | nil => exact fun o ho => ho
    | cons e rest ih =>
        intro o ho
        exact ih (fun x hx => h x (List.mem_cons_of_mem _ hx)) _
          (ho.insert e.1 (h e List.mem_cons_self))
  exact hfold [] empty

theorem single (hv : value.Storable) : Storable (.obj [(key, value)]) :=
  empty.insert key hv

theorem set {items : List Json} (h : Storable (.arr items)) (n : Nat) (hv : value.Storable) :
    Storable (.arr (items.set n value)) := by
  refine storable_arr.mpr fun v hmem => ?_
  rcases List.mem_or_eq_of_mem_set hmem with hold | heq
  · exact storable_arr.mp h v hold
  · exact heq ▸ hv

theorem items {v : Json} (h : v.Storable) : ∀ item ∈ v.items, item.Storable := by
  cases v with
  | arr items => exact storable_arr.mp h
  | _ => exact fun _ hmem => by cases hmem

theorem entries {v : Json} (h : v.Storable) : Storable (.obj v.entries) := by
  cases v with
  | obj entries => exact h
  | _ => exact empty

/-! ## Writing into a value -/

/-- A write of something storable keeps a value storable. -/
theorem write {path : String} (hv : value.Storable) (segments : List Segment) :
    ∀ {target result : Json}, target.Storable →
      Json.write path value segments target = .ok result → result.Storable := by
  induction segments with
  | nil =>
      intro target result _ h
      cases h
      exact hv
  | cons segment rest ih =>
      intro target result ht h
      cases segment with
      | key name =>
          cases target with
          | obj entries =>
              have hinner : ((Object.get? name entries).getD .null).Storable := by
                cases hget : Object.get? name entries with
                | none => exact storable_null
                | some v => exact ht.get? hget
              obtain ⟨inner, hwrite, he⟩ := bind_eq_ok h
              cases he
              exact ht.insert name (ih hinner hwrite)
          | null =>
              obtain ⟨inner, hwrite, he⟩ := bind_eq_ok h
              cases he
              exact single (ih storable_null hwrite)
          | _ => cases h
      | index n =>
          cases target with
          | arr items =>
              simp only [Json.write] at h
              cases hitem : items[n]? with
              | none => simp [hitem] at h
              | some item =>
                  simp only [hitem] at h
                  obtain ⟨inner, hwrite, he⟩ := bind_eq_ok h
                  cases he
                  exact ht.set n (ih (storable_arr.mp ht item (List.mem_of_getElem? hitem)) hwrite)
          | _ => cases h

/-- What is found some steps away is storable, and putting back something storable keeps the whole
so. -/
theorem focus? (segments : List Segment) :
    ∀ {target inner : Json} {put : Json → Json}, target.Storable →
      Json.focus? segments target = some (inner, put) →
      inner.Storable ∧ ∀ v, v.Storable → (put v).Storable := by
  induction segments with
  | nil =>
      intro target inner put ht h
      cases h
      exact ⟨ht, fun _ hv => hv⟩
  | cons segment rest ih =>
      intro target inner put ht h
      cases segment with
      | key name =>
          cases target with
          | obj entries =>
              simp only [Json.focus?, Option.bind_eq_bind, Option.bind_eq_some_iff] at h
              obtain ⟨v, hget, ⟨inner', put'⟩, hfocus, he⟩ := h
              cases he
              obtain ⟨hinner, hput⟩ := ih (ht.get? hget) hfocus
              exact ⟨hinner, fun w hw => ht.insert name (hput w hw)⟩
          | _ => cases h
      | index n =>
          cases target with
          | arr items =>
              simp only [Json.focus?, Option.bind_eq_bind, Option.bind_eq_some_iff] at h
              obtain ⟨v, hget, ⟨inner', put'⟩, hfocus, he⟩ := h
              cases he
              obtain ⟨hinner, hput⟩ :=
                ih (storable_arr.mp ht v (List.mem_of_getElem? hget)) hfocus
              exact ⟨hinner, fun w hw => ht.set n (hput w hw)⟩
          | _ => cases h

end Json.Storable

end PageBuilder
