import PageBuilder.Markup.Style
import PageBuilder.Proofs.Text.Pieces
import PageBuilder.Proofs.Text.Trim

/-!
# Styles read back

The text of a style reads as the style it was written from (`apart_of_rules`), whatever values its
rules were given.

A declaration is kept apart from its neighbours by three things: nothing in it is a semicolon, its
property has no colon, and both its parts are trimmed (`IsDeclaration`).  Rules add such
declarations only (`Rule.isDeclaration`), by two ways: a value that is set loses its semicolons, and
what a text declares was cut out between semicolons.  In a written style a semicolon ends a
declaration (`parse_append_semicolon`) and the blank after it belongs to none (`parse_blank`), so
the declarations come back one by one.
-/

namespace PageBuilder.Markup

open Text (Trimmed splitChars trimChars)

/-! ## Declarations -/

/-- A property that a declaration can be made for: a trimmed text that is not empty and has neither
colons nor semicolons. -/
structure IsProperty (s : String) : Prop where
  nonempty : s ≠ ""
  trimmed : Trimmed s.toList
  noColon : ':' ∉ s.toList
  noSemicolon : ';' ∉ s.toList

theorem isProperty_iff {s : String} :
    IsProperty s ↔
      s ≠ "" ∧ trimChars s.toList = s.toList ∧ ':' ∉ s.toList ∧ ';' ∉ s.toList := by
  rw [Text.trimChars_eq_self_iff]
  exact ⟨fun ⟨hne, htrimmed, hcolon, hsemicolon⟩ => ⟨hne, htrimmed, hcolon, hsemicolon⟩,
    fun ⟨hne, htrimmed, hcolon, hsemicolon⟩ => ⟨hne, htrimmed, hcolon, hsemicolon⟩⟩

instance : DecidablePred IsProperty := fun _ => decidable_of_iff _ isProperty_iff.symm

/-- A declaration that is the same when it is written and read. -/
structure IsDeclaration (d : String × String) : Prop where
  property : IsProperty d.1
  trimmed : Trimmed d.2.toList
  noSemicolon : ';' ∉ d.2.toList

theorem isStyleMark_of_mem_styleValue {s : String} {c : Char} (h : c ∈ (styleValue s).toList) :
    isStyleMark c = false := by
  rw [styleValue, String.toList_ofList] at h
  simpa using (List.mem_filter.mp (Text.mem_of_mem_trimChars h)).2

theorem trimmed_styleValue (s : String) : Trimmed (styleValue s).toList := by
  rw [styleValue, String.toList_ofList]
  exact Text.trimmed_trimChars _

theorem semicolon_not_mem_styleValue (s : String) : ';' ∉ (styleValue s).toList := by
  intro h
  have hmark := isStyleMark_of_mem_styleValue h
  simp [isStyleMark] at hmark

namespace Style

theorem ne_colon_of_not_mem {cs : List Char} (h : ':' ∉ cs) :
    ∀ c ∈ cs, decide (c ≠ ':') = true :=
  fun _ hc => decide_eq_true fun hcolon => h (hcolon ▸ hc)

/-- A text is cut at its first colon. -/
theorem declaration?_colon {name : List Char} (h : ':' ∉ name) (value : List Char) :
    declaration? (name ++ ':' :: value) =
      if trimChars name = [] then none
      else some (String.ofList (trimChars name), String.ofList (trimChars value)) := by
  rw [declaration?, List.dropWhile_append_of_pos (ne_colon_of_not_mem h),
    List.takeWhile_append_of_pos (ne_colon_of_not_mem h)]
  simp

theorem declaration?_of_not_mem {cs : List Char} (h : ':' ∉ cs) : declaration? cs = none := by
  rw [declaration?, List.dropWhile_eq_nil_iff.mpr (ne_colon_of_not_mem h)]

/-- What is declared between two semicolons can be written and read. -/
theorem isDeclaration_of_declaration? {cs : List Char} (hcs : ';' ∉ cs) {d : String × String}
    (h : declaration? cs = some d) : IsDeclaration d := by
  by_cases hmem : ':' ∈ cs
  · obtain ⟨name, value, rfl, hcolon⟩ := List.eq_append_cons_of_mem hmem
    obtain ⟨hbefore, -, hafter⟩ : ';' ∉ name ∧ ¬ ';' = ':' ∧ ';' ∉ value := by simpa using hcs
    rw [declaration?_colon hcolon] at h
    split at h
    · cases h
    · rename_i hname
      cases h
      have hproperty : IsProperty (String.ofList (trimChars name)) := by
        refine ⟨fun hempty => hname ?_, ?_, ?_, ?_⟩
        · rw [← String.toList_ofList (l := trimChars name), hempty]
          rfl
        all_goals rw [String.toList_ofList]
        · exact Text.trimmed_trimChars name
        · exact fun hin => hcolon (Text.mem_of_mem_trimChars hin)
        · exact fun hin => hbefore (Text.mem_of_mem_trimChars hin)
      refine ⟨hproperty, ?_, ?_⟩ <;> rw [String.toList_ofList]
      · exact Text.trimmed_trimChars value
      · exact fun hin => hafter (Text.mem_of_mem_trimChars hin)
  · rw [declaration?_of_not_mem hmem] at h
    cases h

theorem declaration?_blank (cs : List Char) : declaration? (' ' :: cs) = declaration? cs := by
  rw [declaration?, List.dropWhile_cons_of_pos (by decide), List.takeWhile_cons_of_pos (by decide),
    Text.trimChars_cons (by decide)]
  rfl

/-- A declaration is read from its property, a colon, a blank and its value. -/
theorem declaration?_written {d : String × String} (h : IsDeclaration d) :
    declaration? (d.1 ++ ": " ++ d.2).toList = some d := by
  obtain ⟨property, value⟩ := d
  obtain ⟨⟨hne, htrimmed, hcolon, -⟩, hvalue, -⟩ := h
  have hchars : (property ++ ": " ++ value).toList =
      property.toList ++ ':' :: ' ' :: value.toList := by simp
  have hname : trimChars property.toList = property.toList :=
    Text.trimChars_eq_self_iff.mpr htrimmed
  have hrest : trimChars (' ' :: value.toList) = value.toList := by
    rw [Text.trimChars_cons (by decide), Text.trimChars_eq_self_iff.mpr hvalue]
  have hsome : property.toList ≠ [] := by simpa using hne
  rw [hchars, declaration?_colon hcolon, hname, hrest, if_neg hsome, String.ofList_toList,
    String.ofList_toList]

/-! ## Texts of styles -/

theorem parse_eq (s : String) :
    (parse s).declarations = (splitChars (· = ';') s.toList).filterMap declaration? := rfl

/-- A semicolon ends a declaration. -/
theorem parse_append_semicolon (front back : String) :
    (parse (front ++ ";" ++ back)).declarations =
      (parse front).declarations ++ (parse back).declarations := by
  have hchars : (front ++ ";" ++ back).toList = front.toList ++ ';' :: back.toList := by simp
  rw [parse_eq, hchars, Text.splitChars_append_cons (by decide), List.filterMap_append, parse_eq,
    parse_eq]

/-- A blank in front belongs to no declaration. -/
theorem parse_blank (s : String) : parse (" " ++ s) = parse s := by
  have hchars : (" " ++ s).toList = ' ' :: s.toList := by simp
  obtain ⟨piece, rest, hpieces⟩ := Text.exists_splitChars_eq_cons (· = ';') s.toList
  rw [parse, parse, hchars, Text.splitChars_cons_of_neg (by decide) hpieces, hpieces]
  simp only [List.filterMap_cons, declaration?_blank]

theorem isDeclaration_of_mem_parse {s : String} {d : String × String}
    (h : d ∈ (parse s).declarations) : IsDeclaration d := by
  obtain ⟨piece, hpiece, hd⟩ := List.mem_filterMap.mp h
  refine isDeclaration_of_declaration? (fun hmem => ?_) hd
  simpa using Text.cut_eq_false_of_mem hpiece ';' hmem

theorem semicolon_not_mem {d : String × String} (h : IsDeclaration d) :
    ';' ∉ (d.1 ++ ": " ++ d.2).toList := by
  simp [h.property.noSemicolon, h.noSemicolon]

/-- A written declaration is the only one in its text. -/
theorem parse_written {d : String × String} (h : IsDeclaration d) :
    (parse (d.1 ++ ": " ++ d.2)).declarations = [d] := by
  have hplain : ∀ c ∈ (d.1 ++ ": " ++ d.2).toList, decide (c = ';') = false := fun c hc =>
    decide_eq_false fun hmark => semicolon_not_mem h (hmark ▸ hc)
  rw [parse_eq, Text.splitChars_of_forall hplain, List.filterMap_cons, declaration?_written h,
    List.filterMap_nil]

/-- How declarations are written behind another one. -/
def behind : List (String × String) → String
  | [] => ""
  | d :: rest => " " ++ text ⟨d :: rest⟩

/-- A style is written declaration by declaration. -/
theorem text_cons (d : String × String) (rest : List (String × String)) :
    text ⟨d :: rest⟩ = d.1 ++ ": " ++ d.2 ++ ";" ++ behind rest := by
  cases rest with
  | nil => simp [text, behind]
  | cons e rest =>
      simp only [text, behind, List.map_cons, String.intercalate_cons_cons, String.append_assoc]

theorem parse_behind (ds : List (String × String)) : parse (behind ds) = parse (text ⟨ds⟩) := by
  cases ds with
  | nil => rfl
  | cons d rest => exact parse_blank _

theorem count_behind (ds : List (String × String)) :
    (behind ds).toList.count ';' = (text ⟨ds⟩).toList.count ';' := by
  cases ds with
  | nil => rfl
  | cons d rest => simp [behind]

/-- Declarations that can be written and read come back from the text of their style. -/
theorem parse_text {ds : List (String × String)} (h : ∀ d ∈ ds, IsDeclaration d) :
    (parse (text ⟨ds⟩)).declarations = ds := by
  induction ds with
  | nil => rfl
  | cons d rest ih =>
      have hd : IsDeclaration d := h d List.mem_cons_self
      rw [text_cons, parse_append_semicolon, parse_written hd, parse_behind,
        ih fun e he => h e (List.mem_cons_of_mem d he), List.singleton_append]

/-- There are as many semicolons as declarations. -/
theorem count_text {ds : List (String × String)} (h : ∀ d ∈ ds, IsDeclaration d) :
    (text ⟨ds⟩).toList.count ';' = ds.length := by
  induction ds with
  | nil => rfl
  | cons d rest ih =>
      have hd : (d.1 ++ ": " ++ d.2).toList.count ';' = 0 :=
        List.count_eq_zero.mpr (semicolon_not_mem (h d List.mem_cons_self))
      have hmark : ";".toList.count ';' = 1 := rfl
      rw [text_cons, String.toList_append, String.toList_append, List.count_append,
        List.count_append, hd, hmark, count_behind,
        ih fun e he => h e (List.mem_cons_of_mem d he), List.length_cons]
      omega

end Style

/-! ## Styles of rules -/

namespace Rule

/-- Every property that the rule sets is one that a declaration can be made for. -/
def Named : Rule → Prop
  | .set property _ => IsProperty property
  | .setIf condition property _ => condition = true → IsProperty property
  | .raw _ => True

instance : DecidablePred Named
  | .set property _ => inferInstanceAs (Decidable (IsProperty property))
  | .setIf condition property _ =>
      inferInstanceAs (Decidable (condition = true → IsProperty property))
  | .raw _ => .isTrue trivial

/-- The properties that the rule gives a value. -/
def properties : Rule → List String
  | .set property _ => [property]
  | .setIf condition property _ => if condition then [property] else []
  | .raw text => (Style.parse text).declarations.map Prod.fst

theorem isDeclaration_set {property : String} (h : IsProperty property) (value : String) :
    IsDeclaration (property, styleValue value) :=
  ⟨h, trimmed_styleValue value, semicolon_not_mem_styleValue value⟩

theorem isDeclaration {r : Rule} (h : r.Named) : ∀ d ∈ r.declarations, IsDeclaration d := by
  intro d hd
  cases r with
  | set property value =>
      rw [List.mem_singleton.mp hd]
      exact isDeclaration_set h value
  | setIf condition property value =>
      rw [declarations] at hd
      split at hd
      · rename_i hcondition
        rw [List.mem_singleton.mp hd]
        exact isDeclaration_set (h hcondition) value
      · cases hd
  | raw text => exact Style.isDeclaration_of_mem_parse hd

theorem map_fst_declarations (r : Rule) : r.declarations.map Prod.fst = r.properties := by
  cases r with
  | set property value => rfl
  | setIf condition property value => cases condition <;> rfl
  | raw text => rfl

end Rule

namespace Style

theorem of_raw (s : String) : Style.of [.raw s] = parse s := by
  simp [Style.of, Rule.declarations]

theorem isDeclaration_of {rules : List Rule} (h : ∀ r ∈ rules, r.Named) :
    ∀ d ∈ (Style.of rules).declarations, IsDeclaration d := by
  intro d hd
  obtain ⟨r, hr, hd⟩ := List.mem_flatMap.mp hd
  exact Rule.isDeclaration (h r hr) d hd

/-- The text of a style, taken as a rule, builds the style again.  It has one semicolon for each
declaration, and what it declares are the properties that the rules name, whatever their values. -/
theorem apart_of_rules {rules : List Rule} (h : ∀ r ∈ rules, r.Named) :
    Style.of [.raw (Style.of rules).text] = Style.of rules ∧
      (Style.of rules).text.toList.count ';' = (Style.of rules).declarations.length ∧
      (Style.parse (Style.of rules).text).declarations.map Prod.fst =
        rules.flatMap Rule.properties := by
  have hdeclarations := isDeclaration_of h
  have hread : parse (Style.of rules).text = Style.of rules :=
    congrArg Style.mk (parse_text hdeclarations)
  refine ⟨(of_raw _).trans hread, count_text hdeclarations, ?_⟩
  rw [hread, Style.of, List.map_flatMap]
  simp only [Rule.map_fst_declarations]

theorem apart_of_rules_hostile :
    let rules : List Rule :=
      [.raw "display: flex;; gap : a:b ; :x", .set "color" " red; \x7d body: <none",
        .set "width" "", .setIf true "background" "url(data:x;y)", .setIf false "" ";"]
    (∀ r ∈ rules, r.Named) ∧
      Style.of [.raw (Style.of rules).text] = Style.of rules ∧
      (Style.of rules).text.toList.count ';' = (Style.of rules).declarations.length ∧
      (Style.parse (Style.of rules).text).declarations.map Prod.fst =
        rules.flatMap Rule.properties := by
  intro rules
  have hnamed : ∀ r ∈ rules, r.Named := by decide +kernel
  exact ⟨hnamed, apart_of_rules hnamed⟩

end Style

end PageBuilder.Markup
