import PageBuilder.Proofs.Markup.Reader

/-!
# Pages read back

A page is written as HTML, and a reader that knows only HTML finds the page in it
(`readHtml_html`): the start tags, end tags, texts, scripts and comments of its tree (`Node.events`)
and nothing else.  The texts side by side in the tree are one text to the reader, and empty ones are
none (`merge`).

Texts, values, scripts and comments are arbitrary.  Each is written so that what ends it cannot
stand in it, and reading starts anew after each of them: so every law here is about one piece and an
arbitrary text after it, and the tree is followed by induction.
-/

namespace PageBuilder.Markup

/-! ## The events of a page -/

/-- Some characters with every `old` among them replaced by `new`, from left to right. -/
def replaceChars (old new : List Char) : List Char → List Char
  | [] => []
  | c :: rest =>
      if old.isPrefixOf (c :: rest) then new ++ replaceChars old new (rest.drop (old.length - 1))
      else c :: replaceChars old new rest
termination_by cs => cs.length
decreasing_by all_goals simp only [List.length_drop, List.length_cons]; omega

/-- A text with every `old` in it replaced by `new`, from left to right. -/
def replaceText (old new s : String) : String :=
  String.ofList (replaceChars old.toList new.toList s.toList)

namespace Event

/-- Whether an event is a text. -/
def isText : Event → Bool
  | .text _ => true
  | _ => false

/-- An event before others: a text joins one that follows it, and an empty text is none. -/
def onto : Event → List Event → List Event
  | .text s, .text t :: rest => .text (s ++ t) :: rest
  | .text s, rest => if s = "" then rest else .text s :: rest
  | e, rest => e :: rest

/-- Some events, with texts side by side made one and empty texts left out. -/
def merge (events : List Event) : List Event := events.foldr onto []

end Event

namespace Node

mutual

/-- What a reader is to find of a piece of a page. -/
def events : Node → List Event
  | .element tag attributes children =>
      .start tag attributes ::
        if tag ∈ voidTags then [] else eventsAll children ++ [.finish tag]
  | .text s => [.text s]
  | .fragment nodes => eventsAll nodes
  | .script body => [.start "script" [], .raw (replaceText "</" "<\\/" body), .finish "script"]
  | .comment body => [.comment (replaceText "--" "" body)]

/-- What a reader is to find of some pieces. -/
def eventsAll : List Node → List Event
  | [] => []
  | n :: rest => events n ++ eventsAll rest

end

/-- An element whose names can be read, and whose content is not read as a script or style sheet. -/
def Named : Node → Prop
  | .element tag attributes _ =>
      tag ∉ Reader.rawTags ∧ Reader.isName tag ∧ ∀ a ∈ attributes, Reader.isName a.1
  | _ => True

instance : DecidablePred Named
  | .element tag attributes _ =>
      inferInstanceAs (Decidable (tag ∉ Reader.rawTags ∧ Reader.isName tag ∧
        ∀ a ∈ attributes, Reader.isName a.1))
  | .text _ => .isTrue trivial
  | .fragment _ => .isTrue trivial
  | .script _ => .isTrue trivial
  | .comment _ => .isTrue trivial

/-! ## How pieces are written -/

section

variable (rest : List Char)

theorem toList_html_void {tag : String} (htag : tag ∈ voidTags) (attributes : List Attribute)
    (children : List Node) :
    (element tag attributes children).html.toList ++ rest =
      '<' :: (tag.toList ++ ((attributesText attributes).toList ++ '>' :: rest)) := by
  simp [html, htag]

theorem toList_html_element {tag : String} (htag : tag ∉ voidTags) (attributes : List Attribute)
    (children : List Node) :
    (element tag attributes children).html.toList ++ rest =
      '<' :: (tag.toList ++ ((attributesText attributes).toList ++ '>' ::
        ((htmlAll children).toList ++ '<' :: '/' :: (tag.toList ++ '>' :: rest)))) := by
  simp [html, htag]

theorem toList_html_script (body : String) :
    (script body).html.toList ++ rest =
      '<' :: ("script".toList ++ '>' :: (breakEndTags body.toList ++
        '<' :: '/' :: ("script".toList ++ '>' :: rest))) := by
  simp [html, guardEndTags]

theorem toList_html_comment (body : String) :
    (comment body).html.toList ++ rest =
      '<' :: '!' :: '-' :: '-' :: ' ' :: (dropDoubleHyphens body.toList ++
        ' ' :: '-' :: '-' :: '>' :: rest) := by
  simp [html, commentText]

end

/-- How the attributes of an element are written. -/
theorem toList_attributesText_cons (a : Attribute) (attributes : List Attribute) :
    (attributesText (a :: attributes)).toList =
      ' ' :: (a.1.toList ++ '=' :: '"' :: ((escapeAttribute a.2).toList ++
        '"' :: (attributesText attributes).toList)) := by
  simp [attributesText]

end Node

namespace Reader

/-! ## Entities -/

theorem unescape_of_mem_entities {name : List Char} {c : Char} (h : (name, c) ∈ entities)
    (rest : List Char) : unescape (name ++ rest) = c :: unescape rest := by
  simp only [entities, List.mem_cons, List.not_mem_nil, or_false, Prod.mk.injEq] at h
  obtain ⟨rfl, rfl⟩ | ⟨rfl, rfl⟩ | ⟨rfl, rfl⟩ | ⟨rfl, rfl⟩ | ⟨rfl, rfl⟩ := h <;>
    · rw [List.cons_append, unescape]
      rfl

theorem unescape_cons {c : Char} (hc : c ≠ '&') (rest : List Char) :
    unescape (c :: rest) = c :: unescape rest := by
  have hnone : entity? (c :: rest) = none := by
    simp [entity?, entities, List.isPrefixOf, hc.symm]
  rw [unescape, hnone]

/-- A way to write characters before `mark`: each as an entity or as it is, but neither `mark` nor
the beginning of an entity as it is. -/
def Escapes (mark : Char) (entity : Char → List Char) : Prop :=
  ∀ c, (entity c, c) ∈ entities ∨ entity c = [c] ∧ c ≠ '&' ∧ c ≠ mark

theorem escapes_textEntity : Escapes '<' textEntity := by
  intro c
  by_cases hentity : c = '&' ∨ c = '<' ∨ c = '>'
  · left
    obtain rfl | rfl | rfl := hentity <;> decide
  · obtain ⟨hamp, hless, hmore⟩ : c ≠ '&' ∧ c ≠ '<' ∧ c ≠ '>' := by simpa using hentity
    exact Or.inr ⟨by simp [textEntity, hamp, hless, hmore], hamp, hless⟩

theorem escapes_attributeEntity : Escapes '"' attributeEntity := by
  intro c
  by_cases hquote : c = '"' ∨ c = '\''
  · left
    obtain rfl | rfl := hquote <;> decide
  · obtain ⟨hdouble, hsingle⟩ : c ≠ '"' ∧ c ≠ '\'' := by simpa using hquote
    have htext : attributeEntity c = textEntity c := by simp [attributeEntity, hdouble, hsingle]
    rw [htext]
    exact (escapes_textEntity c).imp_right fun ⟨hself, hamp, _⟩ => ⟨hself, hamp, hdouble⟩

section

variable {mark : Char} {entity : Char → List Char}

/-- What was escaped is read character by character, whatever stands after it. -/
theorem Escapes.unescape_flatMap (h : Escapes mark entity) (cs rest : List Char) :
    unescape (cs.flatMap entity ++ rest) = cs ++ unescape rest := by
  induction cs with
  | nil => rfl
  | cons c cs ih =>
      rw [List.flatMap_cons, List.append_assoc]
      obtain hentity | ⟨hself, hamp, -⟩ := h c
      · rw [unescape_of_mem_entities hentity, ih, List.cons_append]
      · rw [hself, List.singleton_append, unescape_cons hamp, ih, List.cons_append]

theorem Escapes.unescape_eq (h : Escapes mark entity) (cs : List Char) :
    unescape (cs.flatMap entity) = cs := by
  have hread := h.unescape_flatMap cs []
  rwa [List.append_nil, unescape, List.append_nil] at hread

theorem Escapes.ne_of_mem (h : Escapes mark entity) (hentities : ∀ e ∈ entities, mark ∉ e.1)
    {cs : List Char} : ∀ d ∈ cs.flatMap entity, decide (d ≠ mark) := by
  intro d hd
  obtain ⟨c, -, hc⟩ := List.mem_flatMap.mp hd
  refine decide_eq_true fun hmark => ?_
  rw [hmark] at hc
  obtain hentity | ⟨hself, -, hne⟩ := h c
  · exact hentities _ hentity hc
  · rw [hself, List.mem_singleton] at hc
    exact hne hc.symm

end

/-! ## Texts -/

theorem piece?_text {c : Char} (hc : c ≠ '<') (cs : List Char) :
    piece? (c :: cs) =
      some ([.text (String.ofList (unescape ((c :: cs).takeWhile (· ≠ '<'))))],
        (c :: cs).dropWhile (· ≠ '<')) := by
  rw [piece?.eq_def]
  split <;> simp_all

theorem piece?_endTag (cs : List Char) : piece? ('<' :: '/' :: cs) = endTag? cs := by
  rw [piece?]

theorem piece?_comment (cs : List Char) :
    piece? ('<' :: '!' :: '-' :: '-' :: cs) = comment? cs := by
  rw [piece?]

/-- No text is read where markup begins. -/
theorem not_isText_of_piece? {cs rest : List Char} {events : List Event}
    (h : piece? ('<' :: cs) = some (events, rest)) :
    ∃ e more, events = e :: more ∧ e.isText = false := by
  rw [piece?.eq_def] at h
  split at h
  · rw [endTag?] at h
    split at h
    · cases h
      exact ⟨_, _, rfl, rfl⟩
    · cases h
  · obtain ⟨⟨body, back⟩, -, h⟩ := Option.bind_eq_some_iff.mp h
    cases h
    exact ⟨_, _, rfl, rfl⟩
  · obtain ⟨⟨attributes, inner⟩, -, h⟩ := Option.bind_eq_some_iff.mp h
    dsimp only at h
    split at h
    · obtain ⟨⟨body, back⟩, -, h⟩ := Option.bind_eq_some_iff.mp h
      cases h
      exact ⟨_, _, rfl, rfl⟩
    · cases h
      exact ⟨_, _, rfl, rfl⟩
  · rename_i hmarkup
    exact absurd rfl (hmarkup cs)

end Reader

namespace Event

theorem text_empty_onto (rest : List Event) : (text "").onto rest = rest := by
  rw [onto.eq_def]
  split <;> simp_all

theorem text_onto {s : String} (hs : s ≠ "") {rest : List Event}
    (hrest : ∀ e ∈ rest.head?, e.isText = false) : (text s).onto rest = .text s :: rest := by
  rw [onto.eq_def]
  split <;> simp_all [isText]

end Event

namespace Reader

theorem not_isText_of_events? {cs : List Char} {events : List Event}
    (h : events? ('<' :: cs) = some events) : ∀ e ∈ events.head?, e.isText = false := by
  rw [events?, dif_neg (by simp)] at h
  split at h
  · cases h
  · rename_i found rest hpiece
    obtain ⟨later, -, rfl⟩ := Option.map_eq_some_iff.mp h
    obtain ⟨e, more, rfl, he⟩ := not_isText_of_piece? hpiece
    intro first hfirst
    cases hfirst
    exact he

/-- A text is read up to the next `<`. -/
theorem events?_text {c : Char} (hc : c ≠ '<') (cs : List Char) :
    events? (c :: cs) =
      (events? ((c :: cs).dropWhile (· ≠ '<'))).map
        (.text (String.ofList (unescape ((c :: cs).takeWhile (· ≠ '<')))) :: ·) :=
  events?_of_piece? (by simp) (piece?_text hc cs)

theorem toList_escapeText (s : String) :
    (escapeText s).toList = s.toList.flatMap textEntity :=
  String.toList_ofList

/-- A text that is read up to the next `<` joins the text that stands there already, if any. -/
theorem map_onto_events? {s : String} (hs : s ≠ "") (rest : List Char) :
    (events? rest).map (Event.text s).onto =
      (events? (rest.dropWhile (· ≠ '<'))).map
        (.text (String.ofList (s.toList ++ unescape (rest.takeWhile (· ≠ '<')))) :: ·) := by
  -- What follows is nothing, markup, or more text; only the last is joined.
  cases rest with
  | nil =>
      have honto : (Event.text s).onto [] = [.text s] := Event.text_onto hs (by simp)
      simp [events?_nil, unescape, honto]
  | cons c cs =>
      by_cases hc : c = '<'
      · subst hc
        rw [List.dropWhile_cons_of_neg (by simp), List.takeWhile_cons_of_neg (by simp), unescape,
          List.append_nil, String.ofList_toList]
        refine Option.map_congr fun events hevents => ?_
        exact Event.text_onto hs (not_isText_of_events? hevents)
      · have hjoin : ∀ t more, (Event.text s).onto (.text (String.ofList t) :: more) =
            .text (String.ofList (s.toList ++ t)) :: more := by
          intro t more
          rw [Event.onto, String.ofList_append, String.ofList_toList]
        rw [events?_text hc, Option.map_map]
        exact Option.map_congr fun more _ => hjoin _ more

/-- An escaped text is read as that text, together with a text that follows it. -/
theorem events?_escapeText (s : String) (rest : List Char) :
    events? ((escapeText s).toList ++ rest) = (events? rest).map (Event.text s).onto := by
  have hfree : ∀ d ∈ (escapeText s).toList, decide (d ≠ '<') := by
    rw [toList_escapeText]
    exact escapes_textEntity.ne_of_mem (by decide)
  have hread : ∀ more, unescape ((escapeText s).toList ++ more) = s.toList ++ unescape more := by
    intro more
    rw [toList_escapeText, escapes_textEntity.unescape_flatMap]
  -- The empty text leaves nothing to read, so it has to be told apart from the others.
  cases hwritten : (escapeText s).toList with
  | nil =>
      have hs : s = "" := by
        have hempty := hread []
        rw [hwritten, List.nil_append, unescape, List.append_nil] at hempty
        exact String.toList_eq_nil_iff.mp hempty.symm
      subst hs
      have honto : (Event.text "").onto = id := funext Event.text_empty_onto
      rw [List.nil_append, honto, Option.map_id_fun, id]
  | cons c cs =>
      have hc : c ≠ '<' := by simpa using hfree c (by simp [hwritten])
      have hs : s ≠ "" := by
        rintro rfl
        cases hwritten
      have hrun : ((escapeText s).toList ++ rest).takeWhile (· ≠ '<') =
          (escapeText s).toList ++ rest.takeWhile (· ≠ '<') :=
        List.takeWhile_append_of_pos hfree
      have hback : ((escapeText s).toList ++ rest).dropWhile (· ≠ '<') =
          rest.dropWhile (· ≠ '<') :=
        List.dropWhile_append_of_pos hfree
      rw [hwritten, List.cons_append] at hrun hback
      rw [List.cons_append, events?_text hc, hrun, hback, ← hwritten, hread, map_onto_events? hs]

/-! ## Tags -/

section

variable {p : Char → Bool} {front : List Char} {c : Char}

theorem takeWhile_until (hfront : ∀ d ∈ front, p d) (hc : p c = false) (back : List Char) :
    (front ++ c :: back).takeWhile p = front := by
  rw [List.takeWhile_append_of_pos hfront, List.takeWhile_cons_of_neg (by simp [hc]),
    List.append_nil]

theorem dropWhile_until (hfront : ∀ d ∈ front, p d) (hc : p c = false) (back : List Char) :
    (front ++ c :: back).dropWhile p = c :: back := by
  rw [List.dropWhile_append_of_pos hfront, List.dropWhile_cons_of_neg (by simp [hc])]

end

theorem toList_escapeAttribute (s : String) :
    (escapeAttribute s).toList = s.toList.flatMap attributeEntity :=
  String.toList_ofList

theorem unescape_escapeAttribute (s : String) :
    unescape (escapeAttribute s).toList = s.toList := by
  rw [toList_escapeAttribute, escapes_attributeEntity.unescape_eq]

theorem ne_quote_of_mem_escapeAttribute (s : String) :
    ∀ c ∈ (escapeAttribute s).toList, decide (c ≠ '"') := by
  rw [toList_escapeAttribute]
  exact escapes_attributeEntity.ne_of_mem (by decide)

/-- A value ends at the quote after it, since none stands in it. -/
theorem attribute?_written {name : String} (hname : isName name)
    (value : String) (rest : List Char) :
    attribute? (name.toList ++ '=' :: '"' :: ((escapeAttribute value).toList ++ '"' :: rest)) =
      some ((name, value), rest) := by
  have hvalue := ne_quote_of_mem_escapeAttribute value
  have hchars := isNameChar_of_isName hname
  have hequals : isNameChar '=' = false := by decide
  have hquote : decide ('"' ≠ '"') = false := by decide
  simp only [attribute?, dropWhile_until hchars hequals, takeWhile_until hchars hequals,
    dropWhile_until hvalue hquote, takeWhile_until hvalue hquote, unescape_escapeAttribute,
    String.ofList_toList]

theorem attributes?_of_attribute? {cs rest : List Char} {a : Attribute}
    (h : attribute? cs = some (a, rest)) :
    attributes? (' ' :: cs) =
      (attributes? rest).map fun (attributes, rest) => (a :: attributes, rest) := by
  rw [attributes?]
  split
  · simp_all
  · rename_i hattribute
    cases hattribute.symm.trans h
    rfl

theorem attributes?_written {attributes : List Attribute}
    (hnames : ∀ a ∈ attributes, isName a.1) (rest : List Char) :
    attributes? ((Node.attributesText attributes).toList ++ '>' :: rest) =
      some (attributes, rest) := by
  induction attributes with
  | nil => simp [Node.attributesText, attributes?]
  | cons a attributes ih =>
      obtain ⟨hname, hnames⟩ := List.forall_mem_cons.mp hnames
      have hread := attribute?_written hname a.2
        ((Node.attributesText attributes).toList ++ '>' :: rest)
      rw [Node.toList_attributesText_cons]
      simp only [List.cons_append, List.append_assoc]
      rw [attributes?_of_attribute? hread, ih hnames, Option.map_some]

/-- What stands after the name of a start tag: attributes, or its end. -/
theorem attributesText_ends (attributes : List Attribute) (rest : List Char) :
    ∃ c more, (Node.attributesText attributes).toList ++ '>' :: rest = c :: more ∧
      (c = ' ' ∨ c = '>') := by
  cases attributes with
  | nil => exact ⟨'>', rest, by simp [Node.attributesText], Or.inr rfl⟩
  | cons a attributes =>
      rw [Node.toList_attributesText_cons]
      exact ⟨' ', _, rfl, Or.inl rfl⟩

theorem startTag?_written {tag : String} {attributes : List Attribute}
    (htag : isName tag) (hraw : tag ∉ rawTags)
    (hnames : ∀ a ∈ attributes, isName a.1) (rest : List Char) :
    startTag? (tag.toList ++ ((Node.attributesText attributes).toList ++ '>' :: rest)) =
      some ([.start tag attributes], rest) := by
  have hchars := isNameChar_of_isName htag
  have hread := attributes?_written hnames rest
  obtain ⟨c, more, hmore, hc⟩ := attributesText_ends attributes rest
  have hend : isNameChar c = false := by
    obtain rfl | rfl := hc <;> decide
  rw [hmore] at hread ⊢
  simp only [startTag?, dropWhile_until hchars hend, takeWhile_until hchars hend, hread,
    String.ofList_toList, if_neg hraw]
  rfl

/-- After a `<` stands a start tag, if a name and the end of one stand there. -/
theorem piece?_startTag {tag : String} (htag : isName tag) {c : Char}
    (hc : c = ' ' ∨ c = '>') (rest : List Char) :
    piece? ('<' :: (tag.toList ++ c :: rest)) = startTag? (tag.toList ++ c :: rest) := by
  -- An empty name is followed by its end, so the tag cannot be taken for another piece then either.
  obtain ⟨d, more, hmore, hslash, hbang⟩ :
      ∃ d more, tag.toList ++ c :: rest = d :: more ∧ d ≠ '/' ∧ d ≠ '!' := by
    cases htext : tag.toList with
    | nil =>
        refine ⟨c, rest, rfl, ?_⟩
        obtain rfl | rfl := hc <;> decide
    | cons d cs =>
        have hd : isNameChar d := isNameChar_of_isName htag d (by simp [htext])
        refine ⟨d, _, rfl, ?_, ?_⟩
        · rintro rfl
          cases hd
        · rintro rfl
          cases hd
  rw [hmore, piece?.eq_def]
  split <;> simp_all

theorem events?_start {tag : String} {attributes : List Attribute}
    (htag : isName tag) (hraw : tag ∉ rawTags)
    (hnames : ∀ a ∈ attributes, isName a.1) (rest : List Char) :
    events? ('<' :: (tag.toList ++ ((Node.attributesText attributes).toList ++ '>' :: rest))) =
      (events? rest).map (.start tag attributes :: ·) := by
  have hread := startTag?_written htag hraw hnames rest
  obtain ⟨c, more, hmore, hc⟩ := attributesText_ends attributes rest
  rw [hmore] at hread ⊢
  exact events?_of_piece? (by simp) ((piece?_startTag htag hc more).trans hread)

theorem events?_finish {tag : String} (htag : isName tag) (rest : List Char) :
    events? ('<' :: '/' :: (tag.toList ++ '>' :: rest)) =
      (events? rest).map (.finish tag :: ·) := by
  have hchars := isNameChar_of_isName htag
  have hend : isNameChar '>' = false := by decide
  have hread : endTag? (tag.toList ++ '>' :: rest) = some ([.finish tag], rest) := by
    simp only [endTag?, dropWhile_until hchars hend, takeWhile_until hchars hend,
      String.ofList_toList]
  exact events?_of_piece? (by simp) ((piece?_endTag _).trans hread)

/-! ## Scripts and comments -/

theorem isName_script : isName "script" := by decide

section

variable {a b c : Char} {new rest : List Char}

theorem replaceChars_pair :
    replaceChars [a, b] new (a :: b :: rest) = new ++ replaceChars [a, b] new rest := by
  rw [replaceChars, if_pos (by simp [List.isPrefixOf])]
  rfl

theorem replaceChars_of_no_pair (h : ∀ tail, c = a → rest = b :: tail → False) :
    replaceChars [a, b] new (c :: rest) = c :: replaceChars [a, b] new rest := by
  have hno : ¬ [a, b].isPrefixOf (c :: rest) := by
    rw [List.isPrefixOf_iff_prefix]
    rintro ⟨tail, htail⟩
    cases htail
    exact h tail rfl rfl
  rw [replaceChars, if_neg hno]

end

theorem breakEndTags_eq (cs : List Char) :
    breakEndTags cs = replaceChars ['<', '/'] ['<', '\\', '/'] cs := by
  induction cs using breakEndTags.induct with
  | case1 rest ih =>
      rw [breakEndTags, replaceChars_pair, ih]
      rfl
  | case2 c rest hmark ih =>
      rw [breakEndTags.eq_2 c rest hmark, replaceChars_of_no_pair hmark, ih]
  | case3 => rw [breakEndTags, replaceChars]

theorem dropDoubleHyphens_eq (cs : List Char) :
    dropDoubleHyphens cs = replaceChars ['-', '-'] [] cs := by
  induction cs using dropDoubleHyphens.induct with
  | case1 rest ih => rw [dropDoubleHyphens, replaceChars_pair, ih, List.nil_append]
  | case2 c rest hmark ih =>
      rw [dropDoubleHyphens.eq_2 c rest hmark, replaceChars_of_no_pair hmark, ih]
  | case3 => rw [dropDoubleHyphens, replaceChars]

theorem guardEndTags_eq (s : String) : guardEndTags s = replaceText "</" "<\\/" s := by
  rw [guardEndTags, breakEndTags_eq]
  rfl

theorem commentText_eq (s : String) : commentText s = replaceText "--" "" s := by
  rw [commentText, dropDoubleHyphens_eq]
  rfl

section

variable {mark : List Char} {c : Char} {rest : List Char}

theorem upTo?_here (h : mark <+: c :: rest) :
    upTo? mark (c :: rest) = some ([], c :: rest) := by
  rw [upTo?, if_pos (List.isPrefixOf_iff_prefix.mpr h)]

theorem upTo?_later (h : ¬ mark <+: c :: rest) :
    upTo? mark (c :: rest) = (upTo? mark rest).map fun (front, back) => (c :: front, back) := by
  rw [upTo?, if_neg (mt List.isPrefixOf_iff_prefix.mp h)]

end

theorem exists_breakEndTags_cons (c : Char) (rest : List Char) :
    ∃ back, breakEndTags (c :: rest) = c :: back := by
  rw [breakEndTags.eq_def]
  split
  · rename_i heq
    cases heq
    exact ⟨_, rfl⟩
  · rename_i heq
    cases heq
    exact ⟨_, rfl⟩
  · rename_i heq
    cases heq

/-- The body of a script is read to its end: nowhere in it stands `</`, not even where the end tag
begins. -/
theorem upTo?_breakEndTags (cs rest : List Char) :
    upTo? ['<', '/'] (breakEndTags cs ++ '<' :: '/' :: rest) =
      some (breakEndTags cs, '<' :: '/' :: rest) := by
  induction cs using breakEndTags.induct with
  | case1 tail ih =>
      rw [breakEndTags]
      simp only [List.cons_append]
      rw [upTo?_later (by simp), upTo?_later (by simp), upTo?_later (by simp), ih]
      rfl
  | case2 c tail hmark ih =>
      have hnot : ¬ ['<', '/'] <+: c :: (breakEndTags tail ++ '<' :: '/' :: rest) := by
        -- A `<` that is kept has no slash after it, and what is read next begins as `tail` does.
        rw [List.cons_prefix_cons]
        rintro ⟨rfl, hslash⟩
        cases tail with
        | nil => simp [breakEndTags] at hslash
        | cons d more =>
            obtain ⟨back, hback⟩ := exists_breakEndTags_cons d more
            rw [hback, List.cons_append, List.cons_prefix_cons] at hslash
            exact hmark more rfl (by rw [hslash.1])
      rw [breakEndTags.eq_2 c tail hmark, List.cons_append, upTo?_later hnot, ih]
      rfl
  | case3 => exact upTo?_here ⟨rest, rfl⟩

/-- The body of a comment is read to its end: after a hyphen that is left in it stands none. -/
theorem upTo?_dropDoubleHyphens (cs rest : List Char) :
    upTo? ['-', '-', '>'] (dropDoubleHyphens cs ++ ' ' :: '-' :: '-' :: '>' :: rest) =
      some (dropDoubleHyphens cs ++ [' '], '-' :: '-' :: '>' :: rest) := by
  induction cs using dropDoubleHyphens.induct with
  | case1 tail ih => rwa [dropDoubleHyphens]
  | case2 c tail hmark ih =>
      have hnot : ¬ ['-', '-', '>'] <+:
          c :: (dropDoubleHyphens tail ++ ' ' :: '-' :: '-' :: '>' :: rest) := by
        -- A hyphen that is kept stands alone: a second one would have been taken out with it.
        rw [List.cons_prefix_cons]
        rintro ⟨rfl, hhyphen⟩
        cases tail with
        | nil => simp [dropDoubleHyphens] at hhyphen
        | cons d more =>
            have hd : d ≠ '-' := by
              rintro rfl
              exact hmark more rfl rfl
            rw [dropDoubleHyphens.eq_2 d more (fun _ h _ => hd h), List.cons_append,
              List.cons_prefix_cons] at hhyphen
            exact hd hhyphen.1.symm
      rw [dropDoubleHyphens.eq_2 c tail hmark, List.cons_append, upTo?_later hnot, ih]
      rfl
  | case3 =>
      rw [dropDoubleHyphens, List.nil_append, upTo?_later (by simp), upTo?_here ⟨rest, rfl⟩]
      rfl

theorem unpad_padded (body : List Char) : unpad (' ' :: (body ++ [' '])) = body := by
  simp [unpad]

theorem startTag?_script (body : String) (rest : List Char) :
    startTag? ("script".toList ++ '>' :: (breakEndTags body.toList ++ '<' :: '/' :: rest)) =
      some ([.start "script" [], .raw (guardEndTags body)], '<' :: '/' :: rest) := by
  have hchars := isNameChar_of_isName isName_script
  have hend : isNameChar '>' = false := by decide
  have hscript : "script" ∈ rawTags := by decide
  simp only [startTag?, dropWhile_until hchars hend, takeWhile_until hchars hend, attributes?,
    String.ofList_toList, if_pos hscript, Option.bind_eq_bind, Option.bind_some,
    upTo?_breakEndTags]
  rfl

theorem events?_script (body : String) (rest : List Char) :
    events? ((Node.script body).html.toList ++ rest) =
      (events? rest).map fun events =>
        .start "script" [] :: .raw (guardEndTags body) :: .finish "script" :: events := by
  have hpiece := (piece?_startTag isName_script (Or.inr rfl) _).trans
    (startTag?_script body ("script".toList ++ '>' :: rest))
  rw [Node.toList_html_script, events?_of_piece? (by simp) hpiece, events?_finish isName_script,
    Option.map_map]
  rfl

theorem events?_comment (body : String) (rest : List Char) :
    events? ((Node.comment body).html.toList ++ rest) =
      (events? rest).map (.comment (commentText body) :: ·) := by
  have hend := upTo?_dropDoubleHyphens body.toList rest
  have hread : comment? (' ' :: (dropDoubleHyphens body.toList ++
      ' ' :: '-' :: '-' :: '>' :: rest)) = some ([.comment (commentText body)], rest) := by
    rw [comment?, upTo?_later (by simp), hend]
    simp [unpad_padded, commentText]
  rw [Node.toList_html_comment]
  exact events?_of_piece? (by simp) ((piece?_comment _).trans hread)

end Reader

/-! ## Whole pages -/

open Reader

mutual

/-- A piece is read as its events, whatever is read after it. -/
theorem events?_html : ∀ {n : Node} (_ : ∀ e ∈ n.elements, e.Named) (rest : List Char),
    events? (n.html.toList ++ rest) = (events? rest).map (n.events.foldr Event.onto ·)
  | .element tag attributes children, hn, rest => by
      obtain ⟨⟨hraw, hname, hnames⟩, hchildren⟩ := List.forall_mem_cons.mp hn
      by_cases htag : tag ∈ Node.voidTags
      · rw [Node.toList_html_void _ htag, events?_start hname hraw hnames, Node.events, if_pos htag]
        rfl
      · rw [Node.toList_html_element _ htag, events?_start hname hraw hnames,
          events?_htmlAll hchildren, events?_finish hname, Node.events, if_neg htag]
        simp only [Option.map_map, List.foldr_cons, List.foldr_append]
        rfl
  | .text s, _, rest => events?_escapeText s rest
  | .fragment nodes, hn, rest => events?_htmlAll hn rest
  | .script body, _, rest => by
      rw [events?_script, guardEndTags_eq]
      rfl
  | .comment body, _, rest => by
      rw [events?_comment, commentText_eq]
      rfl

theorem events?_htmlAll : ∀ {nodes : List Node} (_ : ∀ e ∈ Node.elementsAll nodes, e.Named)
    (rest : List Char),
    events? ((Node.htmlAll nodes).toList ++ rest) =
      (events? rest).map ((Node.eventsAll nodes).foldr Event.onto ·)
  | [], _, rest => by simp [Node.htmlAll, Node.eventsAll]
  | n :: nodes, hnodes, rest => by
      obtain ⟨hn, hnodes⟩ := List.forall_mem_append.mp hnodes
      rw [Node.htmlAll, String.toList_append, List.append_assoc, events?_html hn,
        events?_htmlAll hnodes, Option.map_map, Node.eventsAll]
      simp only [List.foldr_append]
      rfl

end

/-- What a reader finds in the HTML of a page is the page. -/
theorem readHtml_html (n : Node) (hn : ∀ e ∈ n.elements, e.Named) :
    readHtml n.html = some (Event.merge n.events) := by
  have hread := events?_html hn []
  rwa [List.append_nil, events?_nil, Option.map_some] at hread

/-- A page whose texts try to end what they stand in. -/
def trickyPage : Node :=
  .element "div" [("title", "a\"b'c>")]
    [.text "", .text "1 < 2 ", .fragment [.text "&lt;"], .element "br" [] [.text "unseen"],
      .script "s = '<</script>'", .comment "--x---> -"]

theorem readHtml_html_tricky :
    (∀ e ∈ trickyPage.elements, e.Named) ∧
      readHtml trickyPage.html =
        some [.start "div" [("title", "a\"b'c>")], .text "1 < 2 &lt;", .start "br" [],
          .start "script" [], .raw "s = '<<\\/script>'", .finish "script", .comment "x-> -",
          .finish "div"] := by
  have hnamed : ∀ e ∈ trickyPage.elements, e.Named := by decide +kernel
  have hmerge : Event.merge trickyPage.events = [.start "div" [("title", "a\"b'c>")],
      .text "1 < 2 &lt;", .start "br" [], .start "script" [], .raw "s = '<<\\/script>'",
      .finish "script", .comment "x-> -", .finish "div"] := by
    decide +kernel
  exact ⟨hnamed, by rw [readHtml_html trickyPage hnamed, hmerge]⟩

end PageBuilder.Markup
