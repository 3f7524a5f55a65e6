import PageBuilder.Proofs.Json.Records
import PageBuilder.Proofs.Project.Content
import PageBuilder.Proofs.Text.Trim

/-!
# Which contents open

The items of a content are counted without a look at what they are, and a content is opened only
if each of its items is a component.  Both read the same draft, so they can be compared item by
item: an item that has a value is read as a component exactly if it has one id, one kind and at
most one data, of the right types (`Component.exists_shape_iff`).  A content that is counted opens
with as many components as it has items, or not at all (`Project.decodeContent_of_counted`).
-/

namespace PageBuilder

open Json

/-! ## Items that are components -/

namespace Json.Draft

/-- Whether a draft is a natural number of at most 64 bits. -/
def isWord : Draft → Bool
  | .number (.int n) => 0 ≤ n && n ≤ maxWord
  | _ => false

/-- Whether a draft is a string. -/
def isText : Draft → Bool
  | .text _ => true
  | _ => false

/-- Whether a draft is an object. -/
def isObject : Draft → Bool
  | .object _ _ => true
  | _ => false

/-- Whether values given for the id, the kind and the data of a component are one id, one kind and
at most one data. -/
def areMembers (ids names datas : List Draft) : Bool :=
  ids.length == 1 && ids.all isWord && names.length == 1 && names.all isText &&
    datas.length ≤ 1 && datas.all isObject

/-- Whether a draft is a component, written as an object or as a list. -/
def isComponent : Draft → Bool
  | .object entries _ =>
      areMembers (valuesAt (some "id") entries) (valuesAt (some "type") entries)
        (valuesAt (some "data") entries)
  | .list (id :: name :: data) _ => areMembers [id] [name] data
  | _ => false

end Json.Draft

namespace Component

open Json.Shape

variable {depth : Nat} {d : Draft} {v : Json}

/-- The members of a component. -/
def members : List Member :=
  [required "id" word, required "type" Shape.text, optional "data" object]

theorem exists_word_iff : (∃ n, word depth d = .ok n) ↔ d.isWord = true := by
  unfold word Draft.isWord
  split
  next n => by_cases h : 0 ≤ n ∧ n ≤ maxWord <;> simp [h]
  next => simp

theorem exists_text_iff : (∃ s, Shape.text depth d = .ok s) ↔ d.isText = true := by
  cases d <;> simp [Shape.text, Draft.isText]

/-- An object that has a value is read as one. -/
theorem exists_object_iff (h : d.value depth = .ok v) :
    (∃ o, object depth d = .ok o) ↔ d.isObject = true := by
  cases d with
  | object entries closed => simp [object, h, Draft.isObject]
  | _ => simp [object, Draft.isObject]

theorem exists_record_list_iff {items : List Draft}
    (hsound : ∀ d ∈ items, ∃ v, d.value depth = .ok v) :
    (∃ found, record members (depth + 1) (.list items true) = .ok found) ↔
      (Draft.list items true).isComponent = true := by
  have hread : (∃ found, record members (depth + 1) (.list items true) = .ok found) ↔
      ∃ values, readItems depth true members items = .ok values := by
    rw [record]
    cases readItems depth true members items <;> simp
  rw [hread, exists_readItems_iff]
  rcases items with _ | ⟨id, _ | ⟨name, _ | ⟨data, _ | ⟨other, rest⟩⟩⟩⟩
  · simp [members, Draft.isComponent]
  · simp [members, Draft.isComponent]
  · simp [members, check_required_iff, exists_word_iff, exists_text_iff, Draft.isComponent,
      Draft.areMembers]
  · obtain ⟨v, hv⟩ := hsound data (by simp)
    simp [members, check_required_iff, check_optional_iff, exists_word_iff, exists_text_iff,
      exists_object_iff hv, Draft.isComponent, Draft.areMembers, and_assoc]
  · simp [members, Draft.isComponent, Draft.areMembers]

theorem exists_record_entries_iff {entries : List (Option String × Draft)}
    (hsound : ∀ e ∈ entries, e.1.isSome = true ∧ ∃ v, e.2.value depth = .ok v) :
    (∃ found, record members (depth + 1) (.object entries true) = .ok found) ↔
      (Draft.object entries true).isComponent = true := by
  have hentries : ∀ e ∈ entries, e.1.isSome = true ∧ e.2.unbroken = true := by
    intro e he
    obtain ⟨hkey, v, hv⟩ := hsound e he
    exact ⟨hkey, value_unbroken hv⟩
  have hdata : (∀ d ∈ valuesAt (some "data") entries, ∃ o, object depth d = .ok o) ↔
      ∀ d ∈ valuesAt (some "data") entries, d.isObject = true := by
    refine forall₂_congr fun d hd => ?_
    obtain ⟨_, v, hv⟩ := hsound _ (mem_of_mem_valuesAt hd)
    exact exists_object_iff hv
  have hone : ∀ ds : List Draft, ds.length = 1 ↔ ds.length ≤ 1 ∧ ds ≠ [] := by
    intro ds
    rw [← List.length_pos_iff]
    omega
  rw [exists_record_object_iff (by decide) hentries]
  simp [members, check_required_iff, check_optional_iff, exists_word_iff, exists_text_iff, hdata,
    hone, Draft.isComponent, Draft.areMembers, and_assoc]

/-- An item that has a value is read as the record of a component exactly if it is one. -/
theorem exists_record_iff (h : d.value depth = .ok v) :
    (∃ found, record members depth d = .ok found) ↔ d.isComponent = true := by
  cases d with
  | list items closed =>
      cases depth with
      | zero => cases h
      | succ depth =>
          obtain ⟨rfl, hsound⟩ := sound_list h
          exact exists_record_list_iff hsound
  | object entries closed =>
      cases depth with
      | zero => cases h
      | succ depth =>
          obtain ⟨rfl, hsound⟩ := sound_object h
          exact exists_record_entries_iff hsound
  | _ => cases depth <;> simp [record, Draft.isComponent]

/-- An item that has a value is read as a component exactly if it is one. -/
theorem exists_shape_iff (h : d.value depth = .ok v) :
    (∃ c, Component.shape depth d = .ok c) ↔ d.isComponent = true := by
  rw [← exists_record_iff h]
  constructor
  · rintro ⟨c, hc⟩
    obtain ⟨found, hfound, _⟩ := bind_eq_ok hc
    exact ⟨found, hfound⟩
  · rintro ⟨found, hfound⟩
    have hnames : (members.map (·.name)).Nodup := by decide
    obtain ⟨id, hid⟩ : ∃ id, found.get "id" word = .ok id :=
      exists_get hnames (by simp [members]) hfound
    obtain ⟨name, hname⟩ : ∃ name, found.get "type" Shape.text = .ok name :=
      exists_get hnames (by simp [members]) hfound
    obtain ⟨data, hdata⟩ : ∃ data, found.getD "data" object [] = .ok data :=
      exists_getD hnames (by simp [members]) hfound []
    rw [members] at hfound
    exact ⟨⟨id, name, data⟩, by simp [Component.shape, hfound, hid, hname, hdata]⟩

end Component

/-! ## Blank texts -/

namespace Json

/-- No token starts with a blank. -/
theorem scanToken_of_isBlank {c : Char} (h : Text.isBlank c = true) (cs : List Char) :
    scanToken (c :: cs) = (.bad, []) := by
  have hne : ∀ other, Text.isBlank other = false → c ≠ other := by
    rintro other hother rfl
    rw [h] at hother
    cases hother
  have hdigit : c.isDigit = false := by
    by_contra hd
    have hrange := Char.isDigit_iff_toNat.mp (by simpa using hd)
    have hzero : '0'.toNat = 48 := rfl
    have hnine : '9'.toNat = 57 := rfl
    simp only [Text.isBlank, Text.blankRanges, List.any_cons, List.any_nil, Bool.or_false,
      Bool.or_eq_true, Bool.and_eq_true, decide_eq_true_eq] at h
    omega
  have hnumeral : scanNumeral (c :: cs) = none := by
    unfold scanNumeral
    split
    next negative whole hsign =>
      split at hsign
      next heq => exact absurd (List.cons.inj heq).1 (hne '-' (by decide))
      next =>
        cases hsign
        simp [hdigit]
  unfold scanToken
  split
  case h_11 => rw [hnumeral]
  all_goals
    next heq =>
      exact absurd (List.cons.inj heq).1 (hne _ (by decide))

/-- A blank text is not JSON. -/
theorem ofText_of_isBlank {s : String} (h : ∀ c ∈ s.toList, Text.isBlank c = true) :
    (Draft.ofText s).2 = false := by
  have hdrop : ∀ c ∈ s.toList.dropWhile isSpace, Text.isBlank c = true := fun c hc =>
    h c ((List.dropWhile_suffix isSpace).subset hc)
  rw [Draft.ofText, tokens, scanTokens]
  cases hcs : s.toList.dropWhile isSpace with
  | nil => rfl
  | cons c rest =>
      rw [hcs] at hdrop
      simp only [scanToken_of_isBlank (hdrop c List.mem_cons_self)]
      rfl

end Json

namespace Project

variable {content : String} {items : List Draft} {n : Nat}

/-! ## Counted contents -/

/-- The items of a content that was counted, all of which have a value. -/
theorem items_of_contentLength (h : contentLength content = .ok n) :
    ∃ items, Draft.ofText content = (.list items true, true) ∧ items.length = n ∧
      ∀ d ∈ items, ∃ v, d.value 126 = .ok v := by
  rw [contentLength] at h
  split at h
  next values hread =>
    cases h
    obtain ⟨items, htext, hitems⟩ := Shape.ofText_of_read hread
    exact ⟨items, htext, (length_of_mapM hitems).symm, exists_mapM_iff.mp ⟨values, hitems⟩⟩
  next => cases h

theorem trim_of_ofText (h : (Draft.ofText content).2 = true) :
    (Text.trim content).isEmpty = false := by
  by_contra hblank
  rw [ofText_of_isBlank (Text.isBlank_of_trim_isEmpty (by simpa using hblank))] at h
  cases h

theorem decodeContent_of_ofText (h : Draft.ofText content = (.list items true, true)) :
    decodeContent (some content) =
      (items.mapM (Component.shape 126)).mapError fun _ => .malformedState .content := by
  have hblank : (Text.trim content).isEmpty = false := trim_of_ofText (by rw [h])
  rw [decodeContent, decodePart, hblank, Shape.read_of_ofText h]
  rfl

/-- A content all of whose items are components opens with as many as there are. -/
theorem decodeContent_of_forall (h : Draft.ofText content = (.list items true, true))
    (hsound : ∀ d ∈ items, ∃ v, d.value 126 = .ok v) (hall : ∀ d ∈ items, d.isComponent = true) :
    ∃ cs, decodeContent (some content) = .ok cs ∧ cs.length = items.length := by
  obtain ⟨cs, hcs⟩ : ∃ cs, items.mapM (Component.shape 126) = .ok cs := by
    refine exists_mapM_iff.mpr fun d hd => ?_
    obtain ⟨v, hv⟩ := hsound d hd
    exact (Component.exists_shape_iff hv).mpr (hall d hd)
  exact ⟨cs, by rw [decodeContent_of_ofText h, hcs]; rfl, length_of_mapM hcs⟩

/-- A content with an item that is no component does not open. -/
theorem decodeContent_of_exists (h : Draft.ofText content = (.list items true, true))
    (hsound : ∀ d ∈ items, ∃ v, d.value 126 = .ok v) (hone : ∃ d ∈ items, d.isComponent = false) :
    decodeContent (some content) = .error (.malformedState .content) := by
  obtain ⟨d, hd, hno⟩ := hone
  obtain ⟨v, hv⟩ := hsound d hd
  rw [decodeContent_of_ofText h]
  cases hcs : items.mapM (Component.shape 126) with
  | error e => rfl
  | ok cs =>
      have hd := (Component.exists_shape_iff hv).mp (exists_mapM_iff.mp ⟨cs, hcs⟩ d hd)
      rw [hno] at hd
      cases hd

end Project

end PageBuilder
