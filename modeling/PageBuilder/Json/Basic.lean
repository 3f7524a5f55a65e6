/-!
# JSON values

The values that component data is made of.  Objects keep their entries sorted by key, in code
point order, with no key twice (`Json.Ordered`); `Object.insert` keeps that order, and looking a
key up after an insertion gives what was inserted (`Object.get?_insert_self`) and leaves every
other key alone (`Object.get?_insert_of_ne`).
-/

namespace PageBuilder

/-! ## Values -/

/-- A number: an integer that fits in 64 bits, signed or unsigned, or else a double. -/
inductive Number where
  | int (n : Int)
  | float (x : Float)
deriving DecidableEq

/-- A JSON value. -/
inductive Json where
  | null
  | bool (b : Bool)
  | num (n : Number)
  | str (s : String)
  | arr (items : List Json)
  | obj (entries : List (String × Json))

/-- The entries of an object, sorted by key. -/
abbrev Object := List (String × Json)

instance : Inhabited Json := ⟨.null⟩

/-- The double nearest to a number. -/
def Number.toFloat : Number → Float
  | .int n => .ofInt n
  | .float x => x

namespace Json

/-- An integer. -/
def int (n : Int) : Json := .num (.int n)

/-- A natural number. -/
def nat (n : Nat) : Json := .num (.int n)

/-- A double. -/
def float (x : Float) : Json := .num (.float x)

/-- The items of a list; none for any other value. -/
def items : Json → List Json
  | .arr items => items
  | _ => []

/-- The entries of an object; none for any other value. -/
def entries : Json → Object
  | .obj entries => entries
  | _ => []

end Json

/-! ## Entries -/

namespace Object

/-- The value at a key. -/
def get? (key : String) : Object → Option Json
  | [] => none
  | (k, v) :: rest => if k = key then some v else get? key rest

/-- Puts a value at a key, in place of the one that was there. -/
def insert (key : String) (value : Json) : Object → Object
  | [] => [(key, value)]
  | (k, v) :: rest =>
      if k = key then (key, value) :: rest
      else if key < k then (key, value) :: (k, v) :: rest
      else (k, v) :: insert key value rest

/-- The object with these entries; of entries with one key the last wins. -/
def ofList (entries : List (String × Json)) : Object :=
  entries.foldl (fun o (k, v) => insert k v o) []

/-- The keys increase strictly. -/
def Sorted (o : Object) : Prop := o.Pairwise fun a b => a.1 < b.1

@[simp] theorem get?_nil (key : String) : get? key [] = none := rfl

/-- What was inserted is found. -/
theorem get?_insert_self (key : String) (value : Json) (o : Object) :
    get? key (insert key value o) = some value := by
  induction o with
  | nil => simp [insert, get?]
  | cons e rest ih =>
    obtain ⟨k, v⟩ := e
    by_cases hk : k = key
    · simp [insert, get?, hk]
    · by_cases hlt : key < k
      · simp [insert, get?, hk, hlt]
      · simp [insert, get?, hk, hlt, ih]

/-- An insertion changes no other key. -/
theorem get?_insert_of_ne {key other : String} (h : other ≠ key) (value : Json) (o : Object) :
    get? other (insert key value o) = get? other o := by
  have hne : key ≠ other := fun e => h e.symm
  induction o with
  | nil => simp [insert, get?, hne]
  | cons e rest ih =>
    obtain ⟨k, v⟩ := e
    by_cases hk : k = key
    · subst hk
      simp [insert, get?, hne]
    · by_cases hlt : key < k
      · simp [insert, get?, hk, hlt, hne]
      · by_cases ho : k = other
        · subst ho
          simp [insert, get?, hk, hlt]
        · simp [insert, get?, hk, hlt, ho, ih]

end Object

/-! ## Ordered values -/

mutual

/-- Every object in the value is sorted. -/
def Json.Ordered : Json → Prop
  | .arr items => Json.AllOrdered items
  | .obj entries => Object.Sorted entries ∧ Json.EntriesOrdered entries
  | _ => True

/-- Every item is ordered. -/
def Json.AllOrdered : List Json → Prop
  | [] => True
  | v :: rest => v.Ordered ∧ Json.AllOrdered rest

/-- The value of every entry is ordered. -/
def Json.EntriesOrdered : List (String × Json) → Prop
  | [] => True
  | (_, v) :: rest => v.Ordered ∧ Json.EntriesOrdered rest

end

end PageBuilder
