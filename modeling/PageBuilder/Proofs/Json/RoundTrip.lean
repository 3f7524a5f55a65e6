import PageBuilder.Json.Shape
import PageBuilder.Proofs.Json.Tokens

/-!
# Reading what was written

The tokens of a value make up its draft (`feed_tokensOf`), so a text that is cut into them is read
as the draft of that value (`ofText_of_tokens`).  The draft in turn has the value as its own, unless
the value is nested deeper than is read (`value_ofJson`).  Together: a shape reads a compact text as
it reads the value (`read_compact`).
-/

namespace PageBuilder.Json

/-- How deep the lists and objects of a value are nested. -/
def nesting (v : Json) : Nat := (Draft.ofJson v).nesting

/-! ## From tokens to drafts -/

namespace Reader

/-- The reader after some tokens, or `none` if one of them may not stand where it does. -/
def feed (r : Reader) : List Token → Option Reader
  | [] => some r
  | token :: rest => do feed (← r.step token) rest

@[simp] theorem feed_singleton (r : Reader) (token : Token) : r.feed [token] = r.step token := by
  simp [feed]

theorem feed_cons {r r' : Reader} {token : Token} (h : r.step token = some r') (ts : List Token) :
    r.feed (token :: ts) = r'.feed ts := by
  rw [feed, h]
  rfl

theorem feed_append (ts us : List Token) : ∀ {r r' : Reader}, r.feed ts = some r' →
    r.feed (ts ++ us) = r'.feed us := by
  induction ts with
  | nil =>
      intro r r' h
      cases h
      rfl
  | cons token rest ih =>
      intro r r' h
      simp only [feed, Option.bind_eq_bind, Option.bind_eq_some_iff] at h
      obtain ⟨next, hstep, hfeed⟩ := h
      rw [List.cons_append, feed_cons hstep, ih hfeed]

theorem run_of_feed (ts : List Token) : ∀ {r r' : Reader}, r.feed ts = some r' →
    r.run ts = r'.run [] := by
  induction ts with
  | nil =>
      intro r r' h
      cases h
      rfl
  | cons token rest ih =>
      intro r r' h
      simp only [feed, Option.bind_eq_bind, Option.bind_eq_some_iff] at h
      obtain ⟨next, hstep, hfeed⟩ := h
      simp only [run, hstep]
      exact ih hfeed

/-- Where a list may end at once, any other token is read as that of an item. -/
theorem feed_firstItem (frames : List Frame) {token : Token} (ts : List Token)
    (h : token ≠ .closeList) :
    feed ⟨frames, .firstItem, .broken⟩ (token :: ts) =
      feed ⟨frames, .value, .broken⟩ (token :: ts) := by
  cases token with
  | closeList => exact absurd rfl h
  | _ => rfl

end Reader

theorem tokensOf_eq_cons (v : Json) :
    ∃ token ts, tokensOf v = token :: ts ∧ token ≠ .closeList := by
  cases v <;> exact ⟨_, _, rfl, nofun⟩

theorem tokensOfItems_eq_cons (v : Json) (rest : List Json) :
    ∃ token ts, tokensOfItems (v :: rest) = token :: ts ∧ token ≠ .closeList := by
  obtain ⟨token, ts, he, hne⟩ := tokensOf_eq_cons v
  cases rest with
  | nil => exact ⟨token, ts, he, hne⟩
  | cons w more =>
      refine ⟨token, ts ++ .comma :: tokensOfItems (w :: more), ?_, hne⟩
      rw [tokensOfItems, he]
      · rfl
      · exact nofun

open Reader in
mutual

/-- Where a value is waited for, the tokens of a value give its draft. -/
theorem feed_tokensOf : ∀ (v : Json) (frames : List Frame),
    feed ⟨frames, .value, .broken⟩ (tokensOf v) = give frames (Draft.ofJson v)
  | .null, _ | .bool _, _ | .num _, _ | .str _, _ => by rw [tokensOf, feed_singleton]; rfl
  | .arr [], _ => by
      simp [tokensOf, tokensOfItems, feed, step, readValue, close, Draft.ofJson, Draft.ofItems]
  | .arr (v :: rest), frames => by
      obtain ⟨token, ts, he, hne⟩ := tokensOfItems_eq_cons v rest
      have hopen : step ⟨frames, .value, .broken⟩ .openList =
          some ⟨.list [] :: frames, .firstItem, .broken⟩ := rfl
      have hitems := feed_tokensOfItems (v :: rest) [] frames nofun
      rw [he, ← feed_firstItem _ ts hne, ← he] at hitems
      rw [tokensOf, feed_cons hopen, feed_append _ _ hitems, feed_singleton]
      simp [step, close, Draft.ofJson]
  | .obj [], _ => by
      simp [tokensOf, tokensOfEntries, feed, step, readValue, close, Draft.ofJson, Draft.ofEntries]
  | .obj (e :: rest), frames => by
      have hopen : step ⟨frames, .value, .broken⟩ .openObject =
          some ⟨.object [] :: frames, .firstKey, .broken⟩ := rfl
      have hentries := feed_tokensOfEntries (e :: rest) .firstKey [] frames nofun (Or.inr rfl)
      rw [tokensOf, feed_cons hopen, feed_append _ _ hentries, feed_singleton]
      simp [step, close, Draft.ofJson]

theorem feed_tokensOfItems : ∀ (items : List Json) (done : List Draft) (outer : List Frame),
    items ≠ [] → feed ⟨.list done :: outer, .value, .broken⟩ (tokensOfItems items) =
      some ⟨.list ((Draft.ofItems items).reverse ++ done) :: outer, .separator, .broken⟩
  | [], _, _, h => absurd rfl h
  | [v], done, outer, _ => feed_tokensOf v (.list done :: outer)
  | v :: w :: more, done, outer, _ => by
      have hv := feed_tokensOf v (.list done :: outer)
      have hcomma : step ⟨.list (Draft.ofJson v :: done) :: outer, .separator, .broken⟩ .comma =
          some ⟨.list (Draft.ofJson v :: done) :: outer, .value, .broken⟩ := rfl
      have hmore := feed_tokensOfItems (w :: more) (Draft.ofJson v :: done) outer nofun
      rw [tokensOfItems, feed_append _ _ hv, feed_cons hcomma, hmore]
      · simp [Draft.ofItems]
      · exact nofun

theorem feed_tokensOfEntries : ∀ (entries : List (String × Json)) (next : Next)
    (done : List (Option String × Draft)) (outer : List Frame),
    entries ≠ [] → next = .key ∨ next = .firstKey →
    feed ⟨.object done :: outer, next, .broken⟩ (tokensOfEntries entries) =
      some ⟨.object ((Draft.ofEntries entries).reverse ++ done) :: outer, .separator, .broken⟩
  | [], _, _, _, h, _ => absurd rfl h
  | (key, v) :: rest, next, done, outer, _, hnext => by
      have hkey : step ⟨.object done :: outer, next, .broken⟩ (.text (some key)) =
          some ⟨.member done (some key) :: outer, .colon, .broken⟩ := by
        obtain rfl | rfl := hnext
        all_goals rfl
      have hcolon : step ⟨.member done (some key) :: outer, .colon, .broken⟩ .colon =
          some ⟨.member done (some key) :: outer, .value, .broken⟩ := rfl
      have hv := feed_tokensOf v (.member done (some key) :: outer)
      cases rest with
      | nil =>
          rw [tokensOfEntries, feed_cons hkey, feed_cons hcolon, hv]
          rfl
      | cons e more =>
          have hcomma : step ⟨.object ((some key, Draft.ofJson v) :: done) :: outer, .separator,
              .broken⟩ .comma =
              some ⟨.object ((some key, Draft.ofJson v) :: done) :: outer, .key, .broken⟩ := rfl
          have hmore := feed_tokensOfEntries (e :: more) .key
            ((some key, Draft.ofJson v) :: done) outer nofun (Or.inl rfl)
          rw [tokensOfEntries, feed_cons hkey, feed_cons hcolon, feed_append _ _ hv,
            feed_cons hcomma, hmore]
          · simp [Draft.ofEntries]
          · exact nofun

end

/-- A text that is cut into the tokens of a value is complete, and is read as the draft of the
value. -/
theorem ofText_of_tokens {s : String} {v : Json} (h : tokens s = tokensOf v) :
    Draft.ofText s = (Draft.ofJson v, true) := by
  have hfeed : Reader.start.feed (tokensOf v) = some ⟨[], .nothing, Draft.ofJson v⟩ :=
    feed_tokensOf v []
  rw [Draft.ofText, h, Reader.run_of_feed _ hfeed]
  rfl

/-- A shape reads such a text as it reads the value. -/
theorem read_of_tokens {α : Type} (shape : Shape α) {s : String} {v : Json}
    (h : tokens s = tokensOf v) : shape.read s = shape maxDepth (Draft.ofJson v) := by
  simp only [Shape.read, ofText_of_tokens h, if_true]
  cases shape maxDepth (Draft.ofJson v) <;> rfl

/-- A shape reads the compact text of a value as it reads the value. -/
theorem read_compact {α : Type} (shape : Shape α) {v : Json} (h : v.Numbers Number.Exact) :
    shape.read v.compact = shape maxDepth (Draft.ofJson v) :=
  read_of_tokens shape (tokens_compact h)

/-! ## From drafts to values -/

@[simp] theorem nesting_arr (items : List Json) :
    (arr items).nesting = Draft.nestingOfItems (Draft.ofItems items) + 1 := rfl

@[simp] theorem nesting_obj (entries : Object) :
    (obj entries).nesting = Draft.nestingOfEntries (Draft.ofEntries entries) + 1 := rfl

/-- Two readings, one after the other, of which each is within a bound or malformed. -/
theorem bind_ite_malformed {α β γ : Type} {m n depth : Nat} (a : α) (b : β) (f : α → β → γ) :
    ((if m ≤ depth then Except.ok a else .error Fault.malformed) >>= fun x =>
      (if n ≤ depth then Except.ok b else .error Fault.malformed) >>= fun y =>
      Except.ok (f x y)) =
      if max m n ≤ depth then .ok (f a b) else .error .malformed := by
  by_cases hm : m ≤ depth
  · by_cases hn : n ≤ depth
    · have hmax : max m n ≤ depth := max_le hm hn
      simp only [hm, hn, hmax, if_true]
      rfl
    · have hmax : ¬ max m n ≤ depth := fun h => hn (le_trans (le_max_right m n) h)
      simp only [hm, hn, hmax, if_true, if_false]
      rfl
  · have hmax : ¬ max m n ≤ depth := fun h => hm (le_trans (le_max_left m n) h)
    simp only [hm, hmax, if_false]
    rfl

mutual

/-- The draft of an ordered value has that value, if it is read as deep as it is nested. -/
theorem value_ofJson : ∀ (depth : Nat) {v : Json}, v.Ordered →
    (Draft.ofJson v).value depth = if v.nesting ≤ depth then .ok v else .error .malformed
  | _, .null, _ | _, .bool _, _ | _, .num _, _ | _, .str _, _ => rfl
  | 0, .arr _, _ | 0, .obj _, _ => rfl
  | depth + 1, .arr items, h => by
      rw [Draft.ofJson, Draft.value, values_ofItems depth h, nesting_arr]
      simp only [Nat.add_le_add_iff_right]
      split <;> rfl
  | depth + 1, .obj entries, h => by
      rw [Draft.ofJson, Draft.value, entryValues_ofEntries depth h.2, nesting_obj]
      simp only [Nat.add_le_add_iff_right]
      split
      · exact congrArg (fun o => Except.ok (Json.obj o)) h.1.ofList_eq
      · rfl

theorem values_ofItems : ∀ (depth : Nat) {items : List Json}, AllOrdered items →
    Draft.values depth (Draft.ofItems items) =
      if Draft.nestingOfItems (Draft.ofItems items) ≤ depth then .ok items else .error .malformed
  | _, [], _ => rfl
  | depth, v :: rest, h => by
      rw [Draft.ofItems, Draft.values, value_ofJson depth h.1, values_ofItems depth h.2]
      exact bind_ite_malformed v rest List.cons

theorem entryValues_ofEntries : ∀ (depth : Nat) {entries : List (String × Json)},
    EntriesOrdered entries →
    Draft.entryValues depth (Draft.ofEntries entries) =
      if Draft.nestingOfEntries (Draft.ofEntries entries) ≤ depth then .ok entries
      else .error .malformed
  | _, [], _ => rfl
  | depth, (key, v) :: rest, h => by
      rw [Draft.ofEntries, Draft.entryValues, value_ofJson depth h.1,
        entryValues_ofEntries depth h.2]
      exact bind_ite_malformed v rest fun v rest => (key, v) :: rest

end

end PageBuilder.Json
