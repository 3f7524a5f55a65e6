import PageBuilder.Json.Shape
import PageBuilder.Proofs.Json.Storable

/-!
# What is read

Every value that is read from a text is storable, whatever the text: a numeral is read as an
integer only if it fits in 64 bits, and objects are sorted when they are made.  The tokens of a
text fit (`tokens_fit`), so its draft does (`ofText_fits`), and a value of a draft that fits is
storable (`value_storable`).
-/

namespace PageBuilder.Json

/-! ## Drafts whose numbers fit -/

mutual

/-- Every number in the draft fits. -/
def Draft.Fits : Draft → Prop
  | .number n => n.Fits
  | .list items _ => Draft.ItemsFit items
  | .object entries _ => Draft.EntriesFit entries
  | _ => True

/-- Every number in the items fits. -/
def Draft.ItemsFit : List Draft → Prop
  | [] => True
  | d :: rest => d.Fits ∧ Draft.ItemsFit rest

/-- Every number in the entries fits. -/
def Draft.EntriesFit : List (Option String × Draft) → Prop
  | [] => True
  | (_, d) :: rest => d.Fits ∧ Draft.EntriesFit rest

end

theorem Draft.itemsFit_iff {items : List Draft} : ItemsFit items ↔ ∀ d ∈ items, d.Fits := by
  induction items with
  | nil => simp [ItemsFit]
  | cons d rest ih => simp [ItemsFit, ih]

theorem Draft.entriesFit_iff {entries : List (Option String × Draft)} :
    EntriesFit entries ↔ ∀ e ∈ entries, e.2.Fits := by
  induction entries with
  | nil => simp [EntriesFit]
  | cons e rest ih => simp [EntriesFit, ih]

theorem Draft.fits_list {items : List Draft} {closed : Bool} :
    (Draft.list items closed).Fits ↔ ∀ d ∈ items, d.Fits := by
  rw [Fits, itemsFit_iff]

theorem Draft.fits_object {entries : List (Option String × Draft)} {closed : Bool} :
    (Draft.object entries closed).Fits ↔ ∀ e ∈ entries, e.2.Fits := by
  rw [Fits, entriesFit_iff]

/-- The drafts that a list or an object is made of. -/
def Draft.parts : Draft → List Draft
  | .list items _ => items
  | .object entries _ => entries.map (·.2)
  | _ => []

theorem Draft.fits_parts {d : Draft} (h : d.Fits) : ∀ part ∈ d.parts, part.Fits := by
  cases d with
  | list items closed => exact fits_list.mp h
  | object entries closed =>
      intro part hpart
      obtain ⟨e, he, rfl⟩ := List.mem_map.mp hpart
      exact fits_object.mp h e he
  | _ => exact List.forall_mem_nil _

/-! ## Tokens -/

theorem Numeral.integer?_fits {n : Numeral} {i : Int} (h : n.integer? = some i) :
    Number.Fits (.int i) := by
  have hlow : signedRange.1 ≤ 0 := by decide
  unfold Numeral.integer? at h
  simp only at h
  split_ifs at h with hplain hnegative hrange hsmall
  · cases h
    have hle := of_decide_eq_true (Bool.and_eq_true_iff.mp hrange).2
    exact ⟨hle, by omega⟩
  · cases h
    exact ⟨by omega, by exact_mod_cast hsmall⟩

theorem Numeral.value?_fits {n : Numeral} {x : Number} (h : n.value? = some x) : x.Fits := by
  unfold Numeral.value? at h
  split at h
  next i hi =>
    cases h
    exact integer?_fits hi
  next =>
    obtain ⟨y, _, rfl⟩ := Option.map_eq_some_iff.mp h
    trivial

/-- A number of a token fits. -/
def Token.Fits : Token → Prop
  | .number (some n) => n.Fits
  | _ => True

theorem scanToken_fits (cs : List Char) : (scanToken cs).1.Fits := by
  unfold scanToken
  split
  case h_11 =>
    split
    next n rest _ =>
      cases hv : n.value? with
      | none => trivial
      | some x => exact Numeral.value?_fits hv
    next => trivial
  case h_10 => split <;> trivial
  all_goals trivial

theorem scanTokens_fit (fuel : Nat) : ∀ (done : List Token) (cs : List Char),
    (∀ t ∈ done, t.Fits) → ∀ t ∈ scanTokens fuel done cs, t.Fits := by
  have hbad : ∀ done : List Token, (∀ t ∈ done, t.Fits) →
      ∀ t ∈ (Token.bad :: done).reverse, t.Fits := by
    intro done hdone t ht
    rcases List.mem_cons.mp (List.mem_reverse.mp ht) with he | hd
    · exact he ▸ trivial
    · exact hdone t hd
  induction fuel with
  | zero => exact fun done _ hdone => hbad done hdone
  | succ fuel ih =>
      intro done cs hdone
      rw [scanTokens]
      split
      · exact fun t ht => hdone t (List.mem_reverse.mp ht)
      · next c rest _ =>
        have hscan := scanToken_fits (c :: rest)
        split
        · exact hbad done hdone
        · next token tail _ heq =>
          rw [heq] at hscan
          refine ih _ _ fun t ht => ?_
          rcases List.mem_cons.mp ht with he | hd
          · exact he ▸ hscan
          · exact hdone t hd

theorem tokens_fit (s : String) : ∀ t ∈ tokens s, t.Fits :=
  scanTokens_fit _ _ _ (List.forall_mem_nil _)

/-! ## The draft of a text -/

/-- Every number in an open list or object fits. -/
def Frame.Fits : Frame → Prop
  | .list items => ∀ d ∈ items, d.Fits
  | .object entries => ∀ e ∈ entries, e.2.Fits
  | .member entries _ => ∀ e ∈ entries, e.2.Fits

/-- Every number read so far fits. -/
structure Reader.Fits (r : Reader) : Prop where
  frames : ∀ f ∈ r.frames, f.Fits
  result : r.result.Fits

namespace Reader

variable {frames : List Frame} {r r' : Reader} {d : Draft} {token : Token}

theorem give_fits (hf : ∀ f ∈ frames, f.Fits) (hd : d.Fits) (h : give frames d = some r) :
    r.Fits := by
  unfold give at h
  split at h
  · cases h
    exact ⟨List.forall_mem_nil _, hd⟩
  · next items outer =>
    cases h
    obtain ⟨hitems, houter⟩ := List.forall_mem_cons.mp hf
    exact ⟨List.forall_mem_cons.mpr ⟨List.forall_mem_cons.mpr ⟨hd, hitems⟩, houter⟩, trivial⟩
  · next entries key outer =>
    cases h
    obtain ⟨hentries, houter⟩ := List.forall_mem_cons.mp hf
    exact ⟨List.forall_mem_cons.mpr ⟨List.forall_mem_cons.mpr ⟨hd, hentries⟩, houter⟩, trivial⟩
  · cases h

theorem readValue_fits (hf : ∀ f ∈ frames, f.Fits) (ht : token.Fits)
    (h : readValue frames token = some r) : r.Fits := by
  unfold readValue at h
  split at h
  case h_3 n =>
    have hd : (Draft.number n).Fits := ht
    exact give_fits hf hd h
  case h_7 | h_8 =>
    cases h
    exact ⟨List.forall_mem_cons.mpr ⟨List.forall_mem_nil _, hf⟩, trivial⟩
  case h_9 => cases h
  all_goals exact give_fits hf (by trivial) h

theorem readKey_fits (hf : ∀ f ∈ frames, f.Fits) (h : readKey frames token = some r) : r.Fits := by
  unfold readKey at h
  split at h
  · cases h
    obtain ⟨hentries, houter⟩ := List.forall_mem_cons.mp hf
    exact ⟨List.forall_mem_cons.mpr ⟨hentries, houter⟩, trivial⟩
  · cases h

theorem close_fits (hf : ∀ f ∈ frames, f.Fits) (h : close frames token = some r) : r.Fits := by
  unfold close at h
  split at h
  · obtain ⟨hitems, houter⟩ := List.forall_mem_cons.mp hf
    exact give_fits houter
      (Draft.fits_list.mpr fun d hd => hitems d (List.mem_reverse.mp hd)) h
  · obtain ⟨hentries, houter⟩ := List.forall_mem_cons.mp hf
    exact give_fits houter
      (Draft.fits_object.mpr fun e he => hentries e (List.mem_reverse.mp he)) h
  · cases h

theorem step_fits (hr : r.Fits) (ht : token.Fits) (h : r.step token = some r') : r'.Fits := by
  unfold step at h
  split at h
  · exact readValue_fits hr.frames ht h
  · split at h
    · exact close_fits hr.frames h
    · exact readValue_fits hr.frames ht h
  · exact readKey_fits hr.frames h
  · split at h
    · exact close_fits hr.frames h
    · exact readKey_fits hr.frames h
  · split at h
    · cases h
      exact ⟨hr.frames, hr.result⟩
    · cases h
  · split at h
    · cases h
      exact ⟨hr.frames, hr.result⟩
    · cases h
      exact ⟨hr.frames, hr.result⟩
    · exact close_fits hr.frames h
  · cases h

theorem abandon_fits (frames : List Frame) : ∀ inner : Option Draft,
    (∀ f ∈ frames, f.Fits) → (∀ d, inner = some d → d.Fits) → (abandon inner frames).Fits := by
  induction frames with
  | nil =>
      intro inner _ hinner
      cases inner with
      | none => trivial
      | some d => exact hinner d rfl
  | cons frame outer ih =>
      intro inner hf hinner
      obtain ⟨hframe, houter⟩ := List.forall_mem_cons.mp hf
      cases frame with
      | list items =>
          refine ih _ houter fun d hd => ?_
          cases hd
          refine Draft.fits_list.mpr fun d hd => ?_
          rcases List.mem_append.mp (List.mem_reverse.mp hd) with hi | hi
          · exact hinner d (Option.mem_toList.mp hi)
          · exact hframe d hi
      | object entries =>
          refine ih _ houter fun d hd => ?_
          cases hd
          exact Draft.fits_object.mpr fun e he => hframe e (List.mem_reverse.mp he)
      | member entries key =>
          refine ih _ houter fun d hd => ?_
          cases hd
          refine Draft.fits_object.mpr fun e he => ?_
          rcases List.mem_cons.mp (List.mem_reverse.mp he) with heq | hi
          · subst heq
            cases inner with
            | none => trivial
            | some d => exact hinner d rfl
          · exact hframe e hi

theorem run_fits (ts : List Token) : ∀ {r : Reader}, r.Fits → (∀ t ∈ ts, t.Fits) →
    (r.run ts).1.Fits := by
  have habandon : ∀ {r : Reader}, r.Fits → (abandon none r.frames).Fits := fun hr =>
    abandon_fits _ none hr.frames fun _ h => by cases h
  induction ts with
  | nil =>
      intro r hr _
      rw [run]
      split
      · exact hr.result
      · exact habandon hr
  | cons token rest ih =>
      intro r hr hts
      obtain ⟨ht, hrest⟩ := List.forall_mem_cons.mp hts
      rw [run]
      split
      next r' hstep => exact ih (step_fits hr ht hstep) hrest
      next =>
        split
        · exact hr.result
        · exact habandon hr

end Reader

theorem ofText_fits (s : String) : (Draft.ofText s).1.Fits :=
  Reader.run_fits _ ⟨List.forall_mem_nil _, trivial⟩ (tokens_fit s)

/-! ## Values -/

mutual

/-- A value of a draft that fits is storable. -/
theorem value_storable : ∀ {depth : Nat} {d : Draft} {v : Json}, d.Fits →
    d.value depth = .ok v → v.Storable
  | _, .null, _, _, h => by cases h; exact storable_null
  | _, .bool b, _, _, h => by cases h; exact storable_bool b
  | _, .number n, _, hd, h => by cases h; exact storable_num.mpr hd
  | _, .text s, _, _, h => by cases h; exact storable_str s
  | 0, .list _ _, _, _, h => by cases h
  | depth + 1, .list items closed, _, hd, h => by
      obtain ⟨vs, hvs, he⟩ := bind_eq_ok h
      split at he
      · cases he
        exact storable_arr.mpr (values_storable hd hvs)
      · cases he
  | 0, .object _ _, _, _, h => by cases h
  | depth + 1, .object entries closed, _, hd, h => by
      obtain ⟨es, hes, he⟩ := bind_eq_ok h
      split at he
      · cases he
        exact Storable.ofList (entryValues_storable hd hes)
      · cases he
  | _, .unholdable, _, _, h => by cases h
  | _, .broken, _, _, h => by cases h

theorem values_storable : ∀ {depth : Nat} {items : List Draft} {vs : List Json},
    Draft.ItemsFit items → Draft.values depth items = .ok vs → ∀ v ∈ vs, v.Storable
  | _, [], _, _, h => by cases h; exact List.forall_mem_nil _
  | _, d :: rest, _, hd, h => by
      obtain ⟨v, hv, h⟩ := bind_eq_ok h
      obtain ⟨vs, hvs, h⟩ := bind_eq_ok h
      cases h
      exact List.forall_mem_cons.mpr ⟨value_storable hd.1 hv, values_storable hd.2 hvs⟩

theorem entryValues_storable : ∀ {depth : Nat} {entries : List (Option String × Draft)}
    {es : List (String × Json)}, Draft.EntriesFit entries →
      Draft.entryValues depth entries = .ok es → ∀ e ∈ es, e.2.Storable
  | _, [], _, _, h => by cases h; exact List.forall_mem_nil _
  | _, (none, _) :: _, _, _, h => by cases h
  | _, (some key, d) :: rest, _, hd, h => by
      obtain ⟨v, hv, h⟩ := bind_eq_ok h
      obtain ⟨es, hes, h⟩ := bind_eq_ok h
      cases h
      exact List.forall_mem_cons.mpr ⟨value_storable hd.1 hv, entryValues_storable hd.2 hes⟩

end

/-! ## Shapes -/

/-- What is read item by item comes from an item. -/
theorem exists_of_mapM {α β : Type} {f : α → Except Fault β} {ys : List β} :
    ∀ {xs : List α}, xs.mapM f = .ok ys → ∀ y ∈ ys, ∃ x ∈ xs, f x = .ok y := by
  intro xs
  induction xs generalizing ys with
  | nil =>
      intro h
      cases h
      exact List.forall_mem_nil _
  | cons x rest ih =>
      intro h
      rw [List.mapM_cons] at h
      obtain ⟨y, hy, h⟩ := bind_eq_ok h
      obtain ⟨others, hothers, h⟩ := bind_eq_ok h
      cases h
      refine List.forall_mem_cons.mpr ⟨⟨x, List.mem_cons_self, hy⟩, fun z hz => ?_⟩
      obtain ⟨w, hw, hfw⟩ := ih hothers z hz
      exact ⟨w, List.mem_cons_of_mem x hw, hfw⟩

/-- What is read item by item has as many items. -/
theorem length_of_mapM {α β : Type} {f : α → Except Fault β} {ys : List β} :
    ∀ {xs : List α}, xs.mapM f = .ok ys → ys.length = xs.length := by
  intro xs
  induction xs generalizing ys with
  | nil =>
      intro h
      cases h
      rfl
  | cons x rest ih =>
      intro h
      rw [List.mapM_cons] at h
      obtain ⟨y, _, h⟩ := bind_eq_ok h
      obtain ⟨others, hothers, h⟩ := bind_eq_ok h
      cases h
      simp [ih hothers]

namespace Shape

variable {depth : Nat} {d : Draft} {members : List Member}

theorem object_storable {o : Object} (hd : d.Fits) (h : object depth d = .ok o) :
    Storable (.obj o) := by
  cases d with
  | object entries closed =>
      obtain ⟨v, hv, he⟩ := bind_eq_ok h
      cases he
      exact (value_storable hd hv).entries
  | _ => cases h

/-- What holds of every item that is read holds of the list. -/
theorem forall_of_list {α : Type} {shape : Shape α} {p : α → Prop} {xs : List α} (hd : d.Fits)
    (hshape : ∀ {depth : Nat} {d : Draft} {x : α}, d.Fits → shape depth d = .ok x → p x)
    (h : list shape depth d = .ok xs) : ∀ x ∈ xs, p x := by
  cases d with
  | list items closed =>
      cases depth with
      | zero => cases h
      | succ depth =>
          obtain ⟨values, hvalues, he⟩ := bind_eq_ok h
          split at he
          · cases he
            intro x hx
            obtain ⟨item, hitem, hread⟩ := exists_of_mapM hvalues x hx
            exact hshape (Draft.fits_list.mp hd item hitem) hread
          · cases he
  | _ => cases depth <;> cases h

theorem exists_of_list {α : Type} {shape : Shape α} {xs : List α}
    (h : list shape depth d = .ok xs) :
    ∃ items closed, d = .list items closed ∧ xs.length = items.length := by
  cases d with
  | list items closed =>
      cases depth with
      | zero => cases h
      | succ depth =>
          obtain ⟨values, hvalues, he⟩ := bind_eq_ok h
          split at he
          · cases he
            exact ⟨items, closed, rfl, length_of_mapM hvalues⟩
          · cases he
  | _ => cases depth <;> cases h

/-- Whatever is read from a text is read from its draft. -/
theorem of_read {α : Type} {shape : Shape α} {s : String} {x : α} (h : shape.read s = .ok x) :
    shape maxDepth (Draft.ofText s).1 = .ok x := by
  obtain ⟨value, hvalue, h⟩ := bind_eq_ok h
  split at h
  · cases h
    exact hvalue
  · cases h

/-- A text that is read as lists of two shapes is read as lists of one length. -/
theorem length_eq_of_read {α β : Type} {shape : Shape α} {other : Shape β} {s : String}
    {xs : List α} {ys : List β} (hxs : (list shape).read s = .ok xs)
    (hys : (list other).read s = .ok ys) : xs.length = ys.length := by
  obtain ⟨items, closed, hdraft, hlength⟩ := exists_of_list (of_read hxs)
  obtain ⟨items', closed', hdraft', hlength'⟩ := exists_of_list (of_read hys)
  rw [hdraft, Draft.list.injEq] at hdraft'
  rw [hlength, hlength', hdraft'.1]

/-- Whether an entry is a member that passed its check. -/
def Checked (members : List Member) (depth : Nat) (e : String × Draft) : Prop :=
  ∃ m ∈ members, m.name = e.1 ∧ m.check depth e.2 = .ok ()

theorem mem_of_readEntries {entries : List (Option String × Draft)} :
    ∀ {found values : List (String × Draft)},
      readEntries members depth found entries = .ok values →
      ∀ e ∈ values, e ∈ found ∨ ((some e.1, e.2) ∈ entries ∧ Checked members depth e) := by
  induction entries with
  | nil =>
      intro found values h
      cases h
      exact fun e he => .inl (List.mem_reverse.mp he)
  | cons entry rest ih =>
      intro found values h e he
      obtain ⟨key, d⟩ := entry
      cases key with
      | none => cases h
      | some key =>
          rw [readEntries] at h
          split at h
          next =>
            split at h
            · exact (ih h e he).imp_right fun hrest => ⟨List.mem_cons_of_mem _ hrest.1, hrest.2⟩
            · cases h
          next m hfind =>
            split at h
            · cases h
            · obtain ⟨_, hcheck, h⟩ := bind_eq_ok h
              obtain hfound | ⟨hrest, hchecked⟩ := ih h e he
              · obtain rfl | hfound := List.mem_cons.mp hfound
                · have hname : m.name = key := by simpa using List.find?_some hfind
                  exact .inr ⟨List.mem_cons_self, m, List.mem_of_find?_eq_some hfind, hname, hcheck⟩
                · exact .inl hfound
              · exact .inr ⟨List.mem_cons_of_mem _ hrest, hchecked⟩

theorem mem_of_readItems {closed : Bool} : ∀ {members : List Member} {items : List Draft}
    {values : List (String × Draft)}, readItems depth closed members items = .ok values →
      ∀ e ∈ values, e.2 ∈ items ∧ Checked members depth e := by
  intro members
  induction members with
  | nil =>
      intro items values h
      cases items with
      | nil =>
          rw [readItems] at h
          split at h <;> cases h
          exact List.forall_mem_nil _
      | cons d rest => cases h
  | cons member members ih =>
      intro items values h
      cases items with
      | nil =>
          simp only [readItems] at h
          split_ifs at h
          cases h
          exact List.forall_mem_nil _
      | cons d rest =>
          obtain ⟨_, hcheck, h⟩ := bind_eq_ok h
          obtain ⟨found, hfound, h⟩ := bind_eq_ok h
          cases h
          refine List.forall_mem_cons.mpr
            ⟨⟨List.mem_cons_self, member, List.mem_cons_self, rfl, hcheck⟩, fun e he => ?_⟩
          obtain ⟨hmem, m, hm, hchecked⟩ := ih hfound e he
          exact ⟨List.mem_cons_of_mem _ hmem, m, List.mem_cons_of_mem _ hm, hchecked⟩

/-- What is found in a record is a part of it, and passed the check of its member. -/
theorem mem_of_record {found : Found} (h : record members depth d = .ok found) :
    ∀ e ∈ found.values, e.2 ∈ d.parts ∧ Checked members found.depth e := by
  cases depth with
  | zero => cases d <;> cases h
  | succ depth =>
      cases d with
      | object entries closed =>
          obtain ⟨values, hvalues, h⟩ := bind_eq_ok h
          split_ifs at h
          cases h
          intro e he
          obtain hnone | ⟨hmem, hchecked⟩ := mem_of_readEntries hvalues e he
          · cases hnone
          · exact ⟨List.mem_map.mpr ⟨_, hmem, rfl⟩, hchecked⟩
      | list items closed =>
          obtain ⟨values, hvalues, h⟩ := bind_eq_ok h
          cases h
          exact mem_of_readItems hvalues
      | _ => cases h

/-- The members of a record that fits do. -/
theorem record_fits {found : Found} (hd : d.Fits) (h : record members depth d = .ok found) :
    ∀ e ∈ found.values, e.2.Fits := fun e he =>
  Draft.fits_parts hd e.2 (mem_of_record h e he).1

theorem forall_of_read {α : Type} {shape : Shape α} {p : α → Prop} {s : String} {x : α}
    (hshape : ∀ {depth : Nat} {d : Draft} {x : α}, d.Fits → shape depth d = .ok x → p x)
    (h : shape.read s = .ok x) : p x :=
  hshape (ofText_fits s) (of_read h)

end Shape

end PageBuilder.Json
