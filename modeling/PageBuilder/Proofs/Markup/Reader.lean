import PageBuilder.Markup.Node

/-!
# Reading HTML

A plain reader of HTML.  From a text it makes the start tags, end tags, texts, bodies of scripts
and comments in it, one after the other (`readHtml`).  It knows nothing of how pages are written:

* after `<` stands a start tag, after `</` an end tag and after `<!--` a comment;
* an attribute is a blank, a name, an equals sign and a value in double quotes;
* in texts and values five entities stand for a character;
* a script or style sheet ends at the first `</`, a comment at the first `-->`.

Anything else is not read at all.
-/

namespace PageBuilder.Markup

/-- What a reader of HTML comes upon. -/
inductive Event where
  | start (tag : String) (attributes : List Attribute)
  | finish (tag : String)
  | text (s : String)
  /-- The body of a script or style sheet. -/
  | raw (body : String)
  | comment (body : String)
deriving DecidableEq, Repr

namespace Reader

/-! ## Names and entities -/

/-- The characters that end the name of a tag or an attribute. -/
def nameEnds : List Char := [' ', '\t', '\n', '\x0c', '\r', '/', '>', '=', '"', '\'', '<', '!']

/-- Whether a character may stand in the name of a tag or an attribute. -/
def isNameChar (c : Char) : Bool := c ∉ nameEnds

/-- Whether a text is the name of a tag or an attribute, as it is written. -/
def isName (s : String) : Bool := s.toList.all isNameChar

theorem isNameChar_of_isName {s : String} (h : isName s) : ∀ c ∈ s.toList, isNameChar c :=
  List.all_eq_true.mp h

/-- The entities that are read, each with the character it stands for. -/
def entities : List (List Char × Char) :=
  [(['&', 'a', 'm', 'p', ';'], '&'), (['&', 'l', 't', ';'], '<'), (['&', 'g', 't', ';'], '>'),
   (['&', 'q', 'u', 'o', 't', ';'], '"'), (['&', '#', '3', '9', ';'], '\'')]

/-- The entity that a text begins with. -/
def entity? (cs : List Char) : Option (List Char × Char) :=
  entities.find? fun e => e.1.isPrefixOf cs

/-- A text with its entities read. -/
def unescape : List Char → List Char
  | [] => []
  | c :: rest =>
      match entity? (c :: rest) with
      | some (name, d) => d :: unescape (rest.drop (name.length - 1))
      | none => c :: unescape rest
termination_by cs => cs.length
decreasing_by all_goals simp only [List.length_drop, List.length_cons]; omega

/-- A text before the first occurrence of `mark`, and the rest from there on. -/
def upTo? (mark : List Char) : List Char → Option (List Char × List Char)
  | [] => none
  | c :: rest =>
      if mark.isPrefixOf (c :: rest) then some ([], c :: rest)
      else (upTo? mark rest).map fun (front, back) => (c :: front, back)

/-! ## Tags and comments -/

/-- Reads an attribute, from its name on. -/
def attribute? (cs : List Char) : Option (Attribute × List Char) :=
  match cs.dropWhile isNameChar with
  | '=' :: '"' :: tail =>
      match tail.dropWhile (· ≠ '"') with
      | [] => none
      | _ :: rest =>
          some ((String.ofList (cs.takeWhile isNameChar),
            String.ofList (unescape (tail.takeWhile (· ≠ '"')))), rest)
  | _ => none

theorem length_dropWhile_le (p : Char → Bool) (cs : List Char) :
    (cs.dropWhile p).length ≤ cs.length :=
  (List.dropWhile_suffix p).length_le

theorem length_of_attribute? {cs rest : List Char} {a : Attribute}
    (h : attribute? cs = some (a, rest)) : rest.length < cs.length := by
  rw [attribute?] at h
  split at h
  · rename_i tail hname
    split at h
    · cases h
    · rename_i _ value hvalue
      cases h
      have hlong := length_dropWhile_le isNameChar cs
      have hshort := length_dropWhile_le (· ≠ '"') tail
      simp only [hname, hvalue, List.length_cons] at hlong hshort
      omega
  · cases h

/-- Reads the attributes of a start tag and the `>` after them. -/
def attributes? : List Char → Option (List Attribute × List Char)
  | '>' :: rest => some ([], rest)
  | ' ' :: cs =>
      match h : attribute? cs with
      | none => none
      | some (a, rest) =>
          have := length_of_attribute? h
          (attributes? rest).map fun (attributes, rest) => (a :: attributes, rest)
  | _ => none
termination_by cs => cs.length
decreasing_by simp; omega

theorem length_of_attributes? {cs rest : List Char} {attributes : List Attribute}
    (h : attributes? cs = some (attributes, rest)) : rest.length < cs.length := by
  induction cs using attributes?.induct generalizing attributes with
  | case1 tail =>
      rw [attributes?] at h
      cases h
      simp
  | case2 cs hnone =>
      rw [attributes?] at h
      split at h <;> simp_all
  | case3 cs a tail hsome _ ih =>
      have hshort := length_of_attribute? hsome
      rw [attributes?] at h
      split at h
      · simp_all
      · rename_i _ _ hsome'
        obtain ⟨⟨_, _⟩, hread, heq⟩ := Option.map_eq_some_iff.mp h
        cases heq
        cases hsome.symm.trans hsome'
        have hrest := ih hread
        simp only [List.length_cons]
        omega
  | case4 cs hclose hblank =>
      rw [attributes?] at h <;> simp_all

/-- The elements whose content is read as it is. -/
def rawTags : List String := ["script", "style"]

/-- Some events, and the text after what they were read from. -/
abbrev Piece := List Event × List Char

/-- Reads a start tag, from its name on, and the body of a script or style sheet. -/
def startTag? (cs : List Char) : Option Piece := do
  let tag := String.ofList (cs.takeWhile isNameChar)
  let (attributes, rest) ← attributes? (cs.dropWhile isNameChar)
  if tag ∈ rawTags then
    let (body, rest) ← upTo? ['<', '/'] rest
    return ([.start tag attributes, .raw (String.ofList body)], rest)
  else
    return ([.start tag attributes], rest)

/-- Reads an end tag, from its name on. -/
def endTag? (cs : List Char) : Option Piece :=
  match cs.dropWhile isNameChar with
  | '>' :: rest => some ([.finish (String.ofList (cs.takeWhile isNameChar))], rest)
  | _ => none

/-- The body of a comment: one blank at either end is not part of it. -/
def unpad (cs : List Char) : List Char :=
  let front := if cs.head? = some ' ' then cs.tail else cs
  if front.getLast? = some ' ' then front.dropLast else front

/-- Reads a comment, from what follows `<!--`. -/
def comment? (cs : List Char) : Option Piece := do
  let (body, rest) ← upTo? ['-', '-', '>'] cs
  return ([.comment (String.ofList (unpad body))], rest.drop 3)

/-- Reads what stands first in a text: all of it up to a `<`, or what that `<` begins. -/
def piece? : List Char → Option Piece
  | '<' :: '/' :: cs => endTag? cs
  | '<' :: '!' :: '-' :: '-' :: cs => comment? cs
  | '<' :: cs => startTag? cs
  | cs =>
      some ([.text (String.ofList (unescape (cs.takeWhile (· ≠ '<'))))], cs.dropWhile (· ≠ '<'))

/-! ## Whole texts -/

theorem append_of_upTo? {mark cs front back : List Char} (h : upTo? mark cs = some (front, back)) :
    front ++ back = cs := by
  induction cs generalizing front with
  | nil => cases h
  | cons c rest ih =>
      rw [upTo?] at h
      split at h
      · cases h
        rfl
      · obtain ⟨⟨_, _⟩, hrest, heq⟩ := Option.map_eq_some_iff.mp h
        cases heq
        rw [List.cons_append, ih hrest]

theorem length_of_upTo? {mark cs front back : List Char} (h : upTo? mark cs = some (front, back)) :
    back.length ≤ cs.length := by
  rw [← append_of_upTo? h, List.length_append]
  omega

theorem length_of_startTag? {cs rest : List Char} {events : List Event}
    (h : startTag? cs = some (events, rest)) : rest.length ≤ cs.length := by
  obtain ⟨⟨attributes, inner⟩, hattributes, h⟩ := Option.bind_eq_some_iff.mp h
  have hname := length_dropWhile_le isNameChar cs
  have hinner := length_of_attributes? hattributes
  dsimp only at h
  split at h
  · obtain ⟨⟨body, back⟩, hbody, h⟩ := Option.bind_eq_some_iff.mp h
    have hback := length_of_upTo? hbody
    cases h
    exact Nat.le_trans hback (by omega)
  · cases h
    omega

theorem length_of_endTag? {cs rest : List Char} {events : List Event}
    (h : endTag? cs = some (events, rest)) : rest.length ≤ cs.length := by
  rw [endTag?] at h
  split at h
  · rename_i hclose
    cases h
    have hname := length_dropWhile_le isNameChar cs
    simp only [hclose, List.length_cons] at hname
    omega
  · cases h

theorem length_of_comment? {cs rest : List Char} {events : List Event}
    (h : comment? cs = some (events, rest)) : rest.length ≤ cs.length := by
  obtain ⟨⟨body, back⟩, hbody, h⟩ := Option.bind_eq_some_iff.mp h
  have hback := length_of_upTo? hbody
  cases h
  simp only [List.length_drop]
  omega

/-- Every piece takes something off a text. -/
theorem length_of_piece? {cs rest : List Char} {events : List Event} (hcs : cs ≠ [])
    (h : piece? cs = some (events, rest)) : rest.length < cs.length := by
  rw [piece?.eq_def] at h
  split at h
  · have := length_of_endTag? h
    simp only [List.length_cons]
    omega
  · have := length_of_comment? h
    simp only [List.length_cons]
    omega
  · have := length_of_startTag? h
    simp only [List.length_cons]
    omega
  · rename_i hmarkup
    cases h
    cases cs with
    | nil => exact absurd rfl hcs
    | cons c rest =>
        have hc : c ≠ '<' := fun hc => hmarkup rest (by rw [hc])
        rw [List.dropWhile_cons_of_pos (by simpa using hc)]
        exact Nat.lt_succ_of_le (length_dropWhile_le _ rest)

/-- Reads a text piece by piece. -/
def events? (cs : List Char) : Option (List Event) :=
  if hcs : cs = [] then some []
  else
    match h : piece? cs with
    | none => none
    | some (events, rest) =>
        have := length_of_piece? hcs h
        (events? rest).map (events ++ ·)
termination_by cs.length

theorem events?_nil : events? [] = some [] := by rw [events?, dif_pos rfl]

theorem events?_of_piece? {cs rest : List Char} {events : List Event} (hcs : cs ≠ [])
    (h : piece? cs = some (events, rest)) : events? cs = (events? rest).map (events ++ ·) := by
  rw [events?, dif_neg hcs]
  split
  · simp_all
  · rename_i hpiece
    cases hpiece.symm.trans h
    rfl

end Reader

/-- What a reader comes upon in a text, unless it cannot be read to its end. -/
def readHtml (s : String) : Option (List Event) := Reader.events? s.toList

end PageBuilder.Markup
