import Mathlib
import PageBuilder.Project.Basic
import PageBuilder.Proofs.Json.Reading
import PageBuilder.Proofs.Json.RoundTrip

/-!
# Content and settings of a project

What a page was stored as reads back as the same page, as long as the data of its components is not
nested deeper than is read: a list of components takes up two of the levels
(`decodeContent_encodeContent`).  Settings always read back (`decodeSettings_encodeSettings`).  The
two and the record that keeps both make up the codec (`Project.codec_exact`).
Whatever is opened, the data of its components is storable (`Record.storable_project`).
-/

namespace PageBuilder

open Json

namespace Component

/-- How deep the data of a component is nested; the data itself counts. -/
def depth (c : Component) : Nat := (Json.obj c.data).nesting

/-- What the text of a component keeps. -/
structure Encodable (c : Component) : Prop where
  word : c.id ≤ maxWord
  ordered : (Json.obj c.data).Ordered
  exact : (Json.obj c.data).Numbers Number.Exact

end Component

namespace Json.Shape

theorem word_ofJson (depth : Nat) {n : Nat} (h : n ≤ maxWord) :
    word depth (Draft.ofJson (.nat n)) = .ok n := by
  have hrange : 0 ≤ (n : Int) ∧ (n : Int) ≤ maxWord := ⟨by omega, by omega⟩
  simp [Draft.ofJson, Json.nat, word, hrange]

theorem object_ofJson (depth : Nat) {o : Object} (h : (Json.obj o).Ordered) :
    object depth (Draft.ofJson (.obj o)) =
      if (Json.obj o).nesting ≤ depth then .ok o else .error .malformed := by
  have hvalue := value_ofJson depth h
  rw [Draft.ofJson] at hvalue ⊢
  rw [object, hvalue]
  split <;> rfl

end Json.Shape

theorem Component.shape_ofJson (depth : Nat) {c : Component} (h : c.Encodable) :
    Component.shape (depth + 1) (Draft.ofJson c.toJson) =
      if c.depth ≤ depth then .ok c else .error .malformed := by
  have hid := Shape.word_ofJson depth h.word
  have htext : Shape.text depth (.text c.typeName) = .ok c.typeName := rfl
  have hdata := Shape.object_ofJson depth h.ordered
  rw [← Component.depth, Draft.ofJson] at hdata
  simp only [Component.toJson, Draft.ofJson, Draft.ofEntries, Component.shape, Shape.record]
  by_cases hle : c.depth ≤ depth
  · rw [if_pos hle] at hdata
    simp [Shape.readEntries, Shape.required, Shape.optional, Shape.Found.get, Shape.Found.getD,
      Shape.Found.get?, List.lookup, hid, htext, hdata, hle]
  · rw [if_neg hle] at hdata
    simp [Shape.readEntries, Shape.required, Shape.optional, hid, htext, hdata, hle]

theorem Component.mapM_shape_ofItems (depth : Nat) : ∀ {cs : List Component},
    (∀ c ∈ cs, c.Encodable) →
    (Draft.ofItems (cs.map Component.toJson)).mapM (Component.shape (depth + 1)) =
      if ∀ c ∈ cs, c.depth ≤ depth then .ok cs else .error .malformed := by
  intro cs
  induction cs with
  | nil =>
      intro _
      rfl
  | cons c rest ih =>
      intro h
      obtain ⟨hc, hrest⟩ := List.forall_mem_cons.mp h
      rw [List.map_cons, Draft.ofItems, List.mapM_cons, Component.shape_ofJson depth hc, ih hrest]
      simp only [List.forall_mem_cons]
      by_cases hfirst : c.depth ≤ depth
      · by_cases hall : ∀ c ∈ rest, c.depth ≤ depth
        · rw [if_pos hfirst, if_pos hall, if_pos ⟨hfirst, hall⟩]
          rfl
        · rw [if_pos hfirst, if_neg hall, if_neg fun h => hall h.2]
          rfl
      · have hnot : ¬(c.depth ≤ depth ∧ ∀ c ∈ rest, c.depth ≤ depth) := fun h => hfirst h.1
        rw [if_neg hfirst, if_neg hnot]
        rfl

theorem Component.exact_toJson {c : Component} (h : c.Encodable) :
    c.toJson.Numbers Number.Exact :=
  ⟨Number.exact_nat h.word, trivial, h.exact, trivial⟩

/-! ## Texts that are not blank -/

theorem Text.isEmpty_trim {s : String} {c : Char} {cs : List Char} (hs : s.toList = c :: cs)
    (hc : isBlank c = false) : (trim s).isEmpty = false := by
  have hdrop : (c :: cs).dropWhile isBlank = c :: cs := by simp [hc]
  have hkeep : (c :: cs).reverse.dropWhile isBlank ≠ [] := by
    intro hnil
    have hblank := List.dropWhile_eq_nil_iff.mp hnil c (by simp)
    rw [hc] at hblank
    cases hblank
  rw [String.isEmpty_eq_false_iff, trim, trimChars, hs, hdrop, trimEndChars]
  intro hnil
  exact hkeep (by simpa using String.ofList_eq.mp hnil)

/-! ## Writing and reading back -/

namespace Project

theorem decodePart_compact {α : Type} (part : StatePart) (shape : Json.Shape α) (default : α)
    {v : Json} (h : v.Numbers Number.Exact) {c : Char} {cs : List Char}
    (hs : v.compact.toList = c :: cs) (hc : Text.isBlank c = false) :
    decodePart part shape default (some v.compact) =
      (shape maxDepth (Draft.ofJson v)).mapError fun _ => .malformedState part := by
  have hblank := Text.isEmpty_trim hs hc
  simp [decodePart, hblank, read_compact shape h]

/-- What components were stored as reads back as them, unless some of their data is nested too deep
to be read. -/
theorem decodeContent_encodeContent {cs : List Component} (h : ∀ c ∈ cs, c.Encodable) :
    decodeContent (some (encodeContent cs)) =
      if ∀ c ∈ cs, c.depth ≤ 125 then .ok cs else .error (.malformedState .content) := by
  have hexact : (Component.listToJson cs).Numbers Number.Exact := by
    refine numbers_arr.mpr fun v hv => ?_
    obtain ⟨c, hc, rfl⟩ := List.mem_map.mp hv
    exact Component.exact_toJson (h c hc)
  have hread : Shape.list Component.shape maxDepth (Draft.ofJson (Component.listToJson cs)) =
      if ∀ c ∈ cs, c.depth ≤ 125 then .ok cs else .error .malformed := by
    rw [Component.listToJson, Draft.ofJson, maxDepth, Shape.list,
      Component.mapM_shape_ofItems 125 h]
    split <;> rfl
  have hopen : ∃ tail, (Component.listToJson cs).compact.toList = '[' :: tail :=
    ⟨_, by simp [Component.listToJson, compact]; rfl⟩
  obtain ⟨tail, htail⟩ := hopen
  rw [decodeContent, encodeContent, decodePart_compact _ _ _ hexact htail (by decide), hread]
  split <;> rfl

/-- What settings were stored as reads back as them. -/
theorem decodeSettings_encodeSettings (s : Settings) :
    decodeSettings (some (encodeSettings s)) = .ok s := by
  have hexact : s.toJson.Numbers Number.Exact :=
    ⟨trivial, ⟨trivial, trivial, trivial, trivial, trivial⟩, trivial⟩
  have htext : ∀ (depth : Nat) (x : String), Shape.text depth (.text x) = .ok x := fun _ _ => rfl
  have hread : Settings.shape maxDepth (Draft.ofJson s.toJson) = .ok s := by
    simp [Settings.toJson, Theme.toJson, Draft.ofJson, Draft.ofEntries, Settings.shape, Theme.shape,
      Shape.record, maxDepth, Shape.readEntries, Shape.optional, Shape.Found.getD,
      Shape.Found.get?, List.lookup, htext]
  have hopen : ∃ tail, s.toJson.compact.toList = '\x7b' :: tail :=
    ⟨_, by simp [Settings.toJson, compact]; rfl⟩
  obtain ⟨tail, htail⟩ := hopen
  rw [decodeSettings, encodeSettings, decodePart_compact _ _ _ hexact htail (by decide), hread]
  rfl

/-! ## Applying and opening again -/

theorem project_apply (r : Record) (name : String) (cs : List Component) (settings : Settings) :
    (r.apply (.of name cs settings)).project =
      ⟨r.id, Text.trim name, (decodeContent (some (encodeContent cs))).toOption.getD [],
        settings⟩ := by
  simp [Record.project, Record.apply, Update.of, decodeSettings_encodeSettings, Except.toOption]

/-- Components of which some has data that is nested too deep are lost together. -/
theorem reloaded_components {cs : List Component} (h : ∀ c ∈ cs, c.Encodable) :
    (decodeContent (some (encodeContent cs))).toOption.getD [] =
      if ∀ c ∈ cs, c.depth ≤ 125 then cs else [] := by
  rw [decodeContent_encodeContent h]
  split <;> rfl

end Project

/-! ## The codec as a whole -/

namespace Project

/-- Components, of whatever kinds, with any ids of 64 bits and any sorted data whose numbers are
integers of 64 bits, are read back from their text exactly if no data is nested more than 125 deep;
if some is, the text is refused.  Settings are always read back.  A record that takes over the save
of a page keeps its id and opens with the trimmed name, the settings and, within that depth, the
components that were saved. -/
theorem codec_exact {cs : List Component} (h : ∀ c ∈ cs, c.Encodable) (settings : Settings)
    (r : Record) (name : String) :
    ((∀ c ∈ cs, c.depth ≤ 125) → decodeContent (some (encodeContent cs)) = .ok cs) ∧
    ((∃ c ∈ cs, 125 < c.depth) →
      decodeContent (some (encodeContent cs)) = .error (.malformedState .content)) ∧
    decodeSettings (some (encodeSettings settings)) = .ok settings ∧
    let opened := (r.apply (.of name cs settings)).project
    opened.id = r.id ∧ opened.name = Text.trim name ∧ opened.settings = settings ∧
      ((∀ c ∈ cs, c.depth ≤ 125) → opened.components = cs) := by
  refine ⟨fun hdepth => ?_, fun hdeep => ?_, decodeSettings_encodeSettings settings, ?_⟩
  · rw [decodeContent_encodeContent h, if_pos hdepth]
  · obtain ⟨c, hc, hlt⟩ := hdeep
    have hnot : ¬ ∀ c ∈ cs, c.depth ≤ 125 := fun hall => Nat.not_le.mpr hlt (hall c hc)
    rw [decodeContent_encodeContent h, if_neg hnot]
  · intro opened
    have hopened : opened = _ := project_apply r name cs settings
    rw [hopened, reloaded_components h]
    exact ⟨rfl, rfl, rfl, fun hdepth => if_pos hdepth⟩

/-- The greatest id there is, a kind that no catalog has, the least and the greatest integer, and
keys and texts with quotes and control characters. -/
theorem codec_exact_carousel :
    let c : Component := ⟨maxWord, "carousel",
      [("\x01", .arr [.int (-9223372036854775808), .nat maxWord]), ("\"é", .str "\\\n")]⟩
    (∀ c' ∈ [c], c'.Encodable) ∧ decodeContent (some (encodeContent [c])) = .ok [c] ∧
      (((Record.new 7 "Draft").apply (.of " Shop " [c] {})).project).components = [c] := by
  intro c
  have hc : ∀ c' ∈ [c], c'.Encodable := List.forall_mem_singleton.mpr
    { word := le_rfl
      ordered := by
        refine ⟨?_, ⟨⟨trivial, trivial, trivial⟩, trivial, trivial⟩⟩
        exact List.pairwise_pair.mpr (by decide)
      exact := by
        refine ⟨⟨⟨trivial, by decide, by decide⟩, ⟨trivial, by decide, by decide⟩, trivial⟩,
          trivial, trivial⟩ }
  have hdepth : ∀ c' ∈ [c], c'.depth ≤ 125 := List.forall_mem_singleton.mpr (by decide)
  obtain ⟨hread, _, _, _, _, _, hopened⟩ := codec_exact hc {} (Record.new 7 "Draft") " Shop "
  exact ⟨hc, hread hdepth, hopened hdepth⟩

end Project

/-! ## What is opened -/

theorem Json.Shape.Found.storable_getD {found : Shape.Found} {name : String} {o : Object}
    (hf : ∀ e ∈ found.values, e.2.Fits) (h : found.getD name Shape.object [] = .ok o) :
    Storable (.obj o) := by
  obtain ⟨value, hvalue, he⟩ := bind_eq_ok h
  cases he
  unfold Shape.Found.get? at hvalue
  split at hvalue
  next d hlookup =>
    obtain ⟨data, hdata, he⟩ := bind_eq_ok hvalue
    obtain ⟨front, back, hvalues, _⟩ := List.lookup_eq_some_iff.mp hlookup
    cases he
    exact Shape.object_storable (hf (name, d) (by rw [hvalues]; simp)) hdata
  next =>
    cases hvalue
    exact Storable.empty

theorem Component.storable_of_shape {depth : Nat} {d : Draft} {c : Component} (hd : d.Fits)
    (h : Component.shape depth d = .ok c) : Storable (.obj c.data) := by
  obtain ⟨found, hfound, h⟩ := bind_eq_ok h
  obtain ⟨id, _, h⟩ := bind_eq_ok h
  obtain ⟨typeName, _, h⟩ := bind_eq_ok h
  obtain ⟨data, hdata, h⟩ := bind_eq_ok h
  cases h
  exact Shape.Found.storable_getD (Shape.record_fits hd hfound) hdata

namespace Project

theorem storable_of_decodeContent {content : Option String} {cs : List Component}
    (h : decodeContent content = .ok cs) : ∀ c ∈ cs, Storable (.obj c.data) := by
  cases content with
  | none =>
      cases h
      exact List.forall_mem_nil _
  | some s =>
      rw [decodeContent, decodePart] at h
      split at h
      · cases h
        exact List.forall_mem_nil _
      · cases hread : (Shape.list Component.shape).read s with
        | error e => rw [hread] at h; cases h
        | ok cs' =>
            rw [hread] at h
            cases h
            refine Shape.forall_of_read (p := fun cs => ∀ c ∈ cs, Storable (.obj c.data)) ?_ hread
            exact fun hd hlist => Shape.forall_of_list hd Component.storable_of_shape hlist

/-- A content whose items were counted has no more components than that. -/
theorem length_of_decodeContent {content : String} {n : Nat} {cs : List Component}
    (hcount : contentLength content = .ok n) (h : decodeContent (some content) = .ok cs) :
    cs.length ≤ n := by
  rw [decodeContent, decodePart] at h
  split at h
  · cases h
    exact Nat.zero_le n
  · cases hread : (Shape.list Component.shape).read content with
    | error e => rw [hread] at h; cases h
    | ok cs' =>
        rw [hread] at h
        cases h
        cases hitems : (Shape.list Shape.any).read content with
        | error e => rw [contentLength, hitems] at hcount; cases hcount
        | ok items =>
            rw [contentLength, hitems] at hcount
            cases hcount
            exact (Shape.length_eq_of_read hread hitems).le

/-- What is opened of a content whose items were counted has no more components than that. -/
theorem Record.length_components {r : Record} {content : String} {n : Nat}
    (hcontent : r.content = some content) (hcount : contentLength content = .ok n) :
    r.project.components.length ≤ n := by
  rw [project, hcontent]
  cases h : decodeContent (some content) with
  | error e => exact Nat.zero_le n
  | ok cs => exact length_of_decodeContent hcount h

/-- Whatever is opened, the data of its components is storable. -/
theorem Record.storable_project (r : Record) :
    ∀ c ∈ r.project.components, Storable (.obj c.data) := by
  intro c hc
  cases h : decodeContent r.content with
  | error e => simp [project, h, Except.toOption] at hc
  | ok cs =>
      simp only [project, h, Except.toOption, Option.getD_some] at hc
      exact storable_of_decodeContent h c hc

end Project

end PageBuilder
