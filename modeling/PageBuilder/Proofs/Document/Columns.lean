import Mathlib.Data.List.Induction
import PageBuilder.Proofs.Document.Independence
import PageBuilder.Proofs.Document.Lifetime
import PageBuilder.Proofs.Document.Values

/-!
# Columns over a run

The number of columns of a component is changed again and again.  Columns that were cut off do not
come back: after some changes only as many of the first columns are left as the smallest number on
the way, and the others are new ones (`resize_kept`, `columns_foldl`).  Changes that are refused
leave no trace (`get?_resized`).
-/

namespace PageBuilder

/-! ## Resizing again and again -/

/-- The first `least` items of a list, filled up to a length. -/
def kept {α : Type} (least length : Nat) (item : α) (items : List α) : List α :=
  items.take least ++ List.replicate (length - least) item

section

variable {α : Type} {least length : Nat} {item : α} {items : List α}

theorem length_kept (hitems : least ≤ items.length) (hlength : least ≤ length) :
    (kept least length item items).length = length := by
  simp only [kept, List.length_append, List.length_take_of_le hitems, List.length_replicate]
  omega

theorem getElem?_kept {i : Nat} (hitems : least ≤ items.length) (hi : i < length) :
    (kept least length item items)[i]? = if i < least then items[i]? else some item := by
  split
  next hleast =>
    rw [kept, List.getElem?_append_left (by simp; omega), List.getElem?_take_of_lt hleast]
  next hleast =>
    rw [kept, List.getElem?_append_right (by simp; omega), List.getElem?_replicate_of_lt]
    rw [List.length_take_of_le hitems]
    omega

/-- What is cut off is lost, and what is filled up is new. -/
theorem resize_kept (hitems : least ≤ items.length) (hlength : least ≤ length) (count : Nat) :
    resize count item (kept least length item items) = kept (min least count) count item items := by
  rw [resize, length_kept hitems hlength]
  simp only [kept, List.take_append, List.take_take, List.take_replicate,
    List.length_take_of_le hitems, List.append_assoc, List.replicate_append_replicate]
  rw [Nat.min_comm count least]
  congr 2
  omega

end

/-- The smallest of a number and some others. -/
def smallest (n : Nat) (others : List Nat) : Nat := others.foldl min n

theorem smallest_concat (n : Nat) (others : List Nat) (last : Nat) :
    smallest n (others ++ [last]) = min (smallest n others) last :=
  List.foldl_concat ..

theorem smallest_le (n : Nat) (others : List Nat) : smallest n others ≤ n := by
  induction others using List.reverseRecOn with
  | nil => exact Nat.le_refl n
  | append_singleton others last ih =>
      rw [smallest_concat]
      exact Nat.le_trans (Nat.min_le_left _ _) ih

theorem smallest_le_getLastD (n : Nat) (others : List Nat) :
    smallest n others ≤ others.getLastD n := by
  induction others using List.reverseRecOn with
  | nil => exact Nat.le_refl n
  | append_singleton others last _ =>
      rw [smallest_concat, List.getLastD_concat]
      exact Nat.min_le_right _ _

/-- The data of a component after its number of columns was changed to some counts. -/
def withCounts (counts : List Nat) (data : Object) : Object :=
  counts.foldl (fun data count => withColumns count data) data

theorem withCounts_concat (counts : List Nat) (last : Nat) (data : Object) :
    withCounts (counts ++ [last]) data = withColumns last (withCounts counts data) :=
  List.foldl_concat ..

/-- The columns that are left are the first ones, as many as there were at the fewest. -/
theorem list_withCounts (counts : List Nat) (data : Object) :
    (withCounts counts data).list "columns" =
      kept (smallest (data.list "columns").length counts)
        (counts.getLastD (data.list "columns").length) newColumn (data.list "columns") := by
  induction counts using List.reverseRecOn with
  | nil => simp [withCounts, kept, smallest]
  | append_singleton counts last ih =>
      rw [withCounts_concat, Object.list, get?_withColumns, ih,
        resize_kept (smallest_le _ counts) (smallest_le_getLastD _ counts), smallest_concat,
        List.getLastD_concat]
      rfl

/-- The last count is written beside the columns. -/
theorem get?_withCounts (counts : List Nat) (last : Nat) (data : Object) :
    (withCounts (counts ++ [last]) data).get? "columnCount" = some (.nat last) ∧
    (withCounts (counts ++ [last]) data).get? "columns" =
      some (.arr (kept (smallest (data.list "columns").length (counts ++ [last])) last newColumn
        (data.list "columns"))) := by
  rw [withCounts_concat, get?_withColumns, list_withCounts,
    resize_kept (smallest_le _ counts) (smallest_le_getLastD _ counts), smallest_concat]
  exact ⟨Object.get?_insert_self _ _ _, rfl⟩

theorem get?_withCounts_of_ne {key : String} (hcount : key ≠ "columnCount")
    (hcolumns : key ≠ "columns") (counts : List Nat) (data : Object) :
    (withCounts counts data).get? key = data.get? key := by
  induction counts using List.reverseRecOn with
  | nil => rfl
  | append_singleton counts last ih =>
      rw [withCounts_concat, withColumns, Object.get?_insert_of_ne hcount,
        Object.get?_insert_of_ne hcolumns, ih]

namespace Document

/-! ## Calls -/

/-- A change of the number of columns is refused exactly if the number cannot be or the component is
not there, and is made in all other cases. -/
theorem setColumnCount_outcome (d : Document) (id count : Nat) :
    ((∃ error, d.setColumnCount id count = (.error error, d)) ↔
      ¬ (1 ≤ count ∧ count ≤ 4) ∨ id ∉ d.ids) ∧
    ((∃ d', d.setColumnCount id count = (.ok (), d')) ↔
      (1 ≤ count ∧ count ≤ 4) ∧ id ∈ d.ids) := by
  rw [← isColumnCount_iff, ← isSome_get?_iff, setColumnCount, updateData]
  cases hcount : isColumnCount count with
  | false => simp
  | true =>
      cases d.get? id with
      | none => simp
      | some c => simp

/-- The document after some changes of the number of columns, each of a component to a count. -/
def resized (d : Document) (calls : List (Nat × Nat)) : Document :=
  d.after (calls.map fun (id, count) => .setColumnCount id count)

/-- The counts of the changes of a component that succeed. -/
def acceptedCounts (id : Nat) : Document → List (Nat × Nat) → List Nat
  | _, [] => []
  | d, (target, count) :: rest =>
      let later := acceptedCounts id (d.setColumnCount target count).2 rest
      match (d.setColumnCount target count).1 with
      | .ok _ => if target = id then count :: later else later
      | .error _ => later

/-- What changes leave of a component is what those that succeed make of its data. -/
theorem get?_resized {id : Nat} (calls : List (Nat × Nat)) : ∀ {d : Document} {c : Component},
    d.get? id = some c →
    (d.resized calls).get? id =
      some { c with data := withCounts (d.acceptedCounts id calls) c.data } := by
  induction calls with
  | nil => exact fun h => h
  | cons call rest ih =>
      intro d c h
      obtain ⟨target, count⟩ := call
      have hwrites := d.setColumnCount_writes target count
      show ((d.setColumnCount target count).2.resized rest).get? id = _
      rw [acceptedCounts]
      generalize d.setColumnCount target count = r at hwrites
      cases hwrites with
      | failed error => exact ih h
      | @written found _ data hfound hdata =>
          obtain ⟨_, rfl⟩ := hdata
          by_cases htarget : target = id
          · subst htarget
            cases hfound.symm.trans h
            simp only [if_true]
            exact ih (get?_withData h _)
          · simp only [htarget, if_false]
            exact ih (by rwa [get?_withData_of_ne (Ne.symm htarget)])

/-- A change of the number of columns is refused, and nothing is changed, exactly if the number
cannot be or the component is not there.  Once some changes of a component have succeeded, it has as
many columns as the last of them said, and says so.  The first columns are those that were there at
the start, as many as there were columns at the fewest on the way; all others are new.  The rest of
its data is as it was. -/
theorem columns_of_calls (d : Document) :
    (∀ id count,
      ((∃ error, d.setColumnCount id count = (.error error, d)) ↔
        ¬ (1 ≤ count ∧ count ≤ 4) ∨ id ∉ d.ids) ∧
      ((∃ d', d.setColumnCount id count = (.ok (), d')) ↔
        (1 ≤ count ∧ count ≤ 4) ∧ id ∈ d.ids)) ∧
    ∀ id c calls counts last, d.get? id = some c →
      d.acceptedCounts id calls = counts ++ [last] →
      ∃ data columns, (d.resized calls).get? id = some { c with data } ∧
        data.get? "columnCount" = some (.nat last) ∧
        data.get? "columns" = some (.arr columns) ∧ columns.length = last ∧
        (∀ i < last, columns[i]? =
          if i < smallest (c.data.list "columns").length (counts ++ [last]) then
            (c.data.list "columns")[i]?
          else some newColumn) ∧
        ∀ key, key ≠ "columnCount" → key ≠ "columns" → data.get? key = c.data.get? key := by
  refine ⟨d.setColumnCount_outcome, ?_⟩
  intro id c calls counts last hc hcounts
  have hitems := smallest_le (c.data.list "columns").length (counts ++ [last])
  have hlast := smallest_le_getLastD (c.data.list "columns").length (counts ++ [last])
  rw [List.getLastD_concat] at hlast
  obtain ⟨hcount, hcolumns⟩ := get?_withCounts counts last c.data
  refine ⟨withCounts (counts ++ [last]) c.data, _, ?_, hcount, hcolumns,
    length_kept hitems hlast, fun i hi => getElem?_kept hitems hi,
    fun key hne hne' => get?_withCounts_of_ne hne hne' _ _⟩
  rw [get?_resized calls hc, hcounts]

/-- Three columns are changed to four, to two and to three: the third one is new.  Two calls between
are refused, and one is for another component. -/
theorem columns_of_calls_narrowed :
    let c : Component :=
      ⟨1, "columns", [("columns", .arr [.nat 7, .null, .str "x"]), ("title", .str "T")]⟩
    let d := ofComponents [c, ⟨2, "columns", []⟩] 5
    let calls := [(1, 9), (1, 4), (2, 1), (1, 2), (5, 1), (1, 3)]
    d.get? 1 = some c ∧ d.acceptedCounts 1 calls = [4, 2] ++ [3] ∧
    ∃ data columns, (d.resized calls).get? 1 = some { c with data } ∧
      data.get? "columnCount" = some (.nat 3) ∧ data.get? "columns" = some (.arr columns) ∧
      columns.length = 3 ∧ columns[1]? = some .null ∧ columns[2]? = some newColumn ∧
      data.get? "title" = some (.str "T") := by
  intro c d calls
  have hc : d.get? 1 = some c := by rfl
  have hcounts : d.acceptedCounts 1 calls = [4, 2] ++ [3] := by rfl
  obtain ⟨data, columns, hget, hcount, hcolumns, hlength, hentries, hothers⟩ :=
    (columns_of_calls d).2 1 c calls _ _ hc hcounts
  exact ⟨hc, hcounts, data, columns, hget, hcount, hcolumns, hlength, hentries 1 (by decide),
    hentries 2 (by decide), hothers "title" (by decide) (by decide)⟩

end Document

end PageBuilder
