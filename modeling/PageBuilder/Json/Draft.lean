import PageBuilder.Json.Token

/-!
# Drafts of JSON values

A draft is a JSON text as it was written: entries in their order, repeated keys included, with the
place where the text stops being JSON.  Reading never fails (`Draft.ofText`); what is wrong with a
text is found when a draft is turned into a value, in the order of the text.  So of two faults the
one that comes first counts, whether it is a fault of form or a value of the wrong kind.
-/

namespace PageBuilder.Json

/-- A JSON text as written. -/
inductive Draft where
  | null
  | bool (b : Bool)
  | number (n : Number)
  | text (s : String)
  /-- A list; not `closed` if the text breaks off after the items. -/
  | list (items : List Draft) (closed : Bool)
  /-- An object; a key is `none` if it holds half of a surrogate pair. -/
  | object (entries : List (Option String × Draft)) (closed : Bool)
  /-- A number or string that no value can hold. -/
  | unholdable
  /-- The text stops being JSON here. -/
  | broken

instance : Inhabited Draft := ⟨.broken⟩

/-! ## Reading tokens -/

/-- A list or object that is still open; what it holds so far stands last first. -/
inductive Frame where
  | list (items : List Draft)
  | object (entries : List (Option String × Draft))
  /-- An object that waits for the value of `key`. -/
  | member (entries : List (Option String × Draft)) (key : Option String)

/-- What may follow in a text that is read halfway. -/
inductive Next where
  | value
  /-- A value, or the end of the list just opened. -/
  | firstItem
  | key
  /-- A key, or the end of the object just opened. -/
  | firstKey
  | colon
  /-- A comma, or the end of the innermost list or object. -/
  | separator
  /-- Nothing more: `Reader.result` is complete. -/
  | nothing
deriving DecidableEq

/-- A text read halfway: what is open, innermost first, and what may follow. -/
structure Reader where
  frames : List Frame
  next : Next
  result : Draft

/-- Nothing read yet. -/
def Reader.start : Reader := ⟨[], .value, .broken⟩

/-- Puts a complete value where the innermost open list or object waits for it. -/
def Reader.give (frames : List Frame) (d : Draft) : Option Reader :=
  match frames with
  | [] => some ⟨[], .nothing, d⟩
  | .list items :: outer => some ⟨.list (d :: items) :: outer, .separator, .broken⟩
  | .member entries key :: outer =>
      some ⟨.object ((key, d) :: entries) :: outer, .separator, .broken⟩
  | .object _ :: _ => none

/-- Reads a token where a value may stand. -/
def Reader.readValue (frames : List Frame) : Token → Option Reader
  | .null => give frames .null
  | .bool b => give frames (.bool b)
  | .number (some n) => give frames (.number n)
  | .number none => give frames .unholdable
  | .text (some s) => give frames (.text s)
  | .text none => give frames .unholdable
  | .openList => some ⟨.list [] :: frames, .firstItem, .broken⟩
  | .openObject => some ⟨.object [] :: frames, .firstKey, .broken⟩
  | _ => none

/-- Reads a token where a key may stand. -/
def Reader.readKey (frames : List Frame) (token : Token) : Option Reader :=
  match frames, token with
  | .object entries :: outer, .text key => some ⟨.member entries key :: outer, .colon, .broken⟩
  | _, _ => none

/-- Closes the innermost list or object. -/
def Reader.close (frames : List Frame) (token : Token) : Option Reader :=
  match frames, token with
  | .list items :: outer, .closeList => give outer (.list items.reverse true)
  | .object entries :: outer, .closeObject => give outer (.object entries.reverse true)
  | _, _ => none

/-- Reads one more token, or `none` if it may not stand here. -/
def Reader.step (r : Reader) (token : Token) : Option Reader :=
  match r.next with
  | .value => readValue r.frames token
  | .firstItem =>
      match token with
      | .closeList => close r.frames token
      | _ => readValue r.frames token
  | .key => readKey r.frames token
  | .firstKey =>
      match token with
      | .closeObject => close r.frames token
      | _ => readKey r.frames token
  | .colon =>
      match token with
      | .colon => some { r with next := .value }
      | _ => none
  | .separator =>
      match token, r.frames with
      | .comma, .list _ :: _ => some { r with next := .value }
      | .comma, .object _ :: _ => some { r with next := .key }
      | _, _ => close r.frames token
  | .nothing => none

/-- What was read, when the text breaks off inside `frames`.  `inner` is the innermost part. -/
def Reader.abandon (inner : Option Draft) : List Frame → Draft
  | [] => inner.getD .broken
  | .list items :: outer =>
      abandon (some (.list (inner.toList ++ items).reverse false)) outer
  | .object entries :: outer => abandon (some (.object entries.reverse false)) outer
  | .member entries key :: outer =>
      abandon (some (.object ((key, inner.getD .broken) :: entries).reverse false)) outer

/-- Reads tokens to their end, or up to one that may not stand where it does.  The flag says
whether a complete value was read and nothing followed it. -/
def Reader.run (r : Reader) : List Token → Draft × Bool
  | [] => if r.next = .nothing then (r.result, true) else (abandon none r.frames, false)
  | token :: rest =>
      match r.step token with
      | some r => r.run rest
      | none =>
          if r.next = .nothing then (r.result, false) else (abandon none r.frames, false)

/-- The draft of a text, and whether the text is one complete value. -/
def Draft.ofText (s : String) : Draft × Bool := Reader.start.run (tokens s)

/-! ## Values -/

/-- What is wrong with a text that should hold a value of some kind. -/
inductive Fault where
  /-- The text is not JSON, or holds something that no value can hold. -/
  | malformed
  /-- The text is JSON of the wrong shape. -/
  | mismatch
deriving DecidableEq, Repr

/-- How deep lists and objects may be nested. -/
def maxDepth : Nat := 127

mutual

/-- The value of a draft that is nested at most `depth` deep.  Of entries with one key the last
wins. -/
def Draft.value (depth : Nat) : Draft → Except Fault Json
  | .null => .ok .null
  | .bool b => .ok (.bool b)
  | .number n => .ok (.num n)
  | .text s => .ok (.str s)
  | .list items closed =>
      match depth with
      | 0 => .error .malformed
      | depth + 1 => do
          let items ← Draft.values depth items
          if closed then .ok (.arr items) else .error .malformed
  | .object entries closed =>
      match depth with
      | 0 => .error .malformed
      | depth + 1 => do
          let entries ← Draft.entryValues depth entries
          if closed then .ok (.obj (Object.ofList entries)) else .error .malformed
  | .unholdable => .error .malformed
  | .broken => .error .malformed

/-- The values of some drafts. -/
def Draft.values (depth : Nat) : List Draft → Except Fault (List Json)
  | [] => .ok []
  | d :: rest => do
      let v ← Draft.value depth d
      let rest ← Draft.values depth rest
      .ok (v :: rest)

/-- The keys and values of some entries. -/
def Draft.entryValues (depth : Nat) :
    List (Option String × Draft) → Except Fault (List (String × Json))
  | [] => .ok []
  | (key, d) :: rest =>
      match key with
      | none => .error .malformed
      | some key => do
          let v ← Draft.value depth d
          let rest ← Draft.entryValues depth rest
          .ok ((key, v) :: rest)

end

mutual

/-- Whether the text of a draft was read to its end, whatever it holds. -/
def Draft.unbroken : Draft → Bool
  | .list items closed => closed && Draft.allUnbroken items
  | .object entries closed => closed && Draft.entriesUnbroken entries
  | .broken => false
  | _ => true

/-- Whether every item is unbroken. -/
def Draft.allUnbroken : List Draft → Bool
  | [] => true
  | d :: rest => d.unbroken && Draft.allUnbroken rest

/-- Whether the value of every entry is unbroken. -/
def Draft.entriesUnbroken : List (Option String × Draft) → Bool
  | [] => true
  | (_, d) :: rest => d.unbroken && Draft.entriesUnbroken rest

end

/-- The value a text writes. -/
def parse (s : String) : Except Fault Json := do
  let (draft, complete) := Draft.ofText s
  let value ← draft.value maxDepth
  if complete then .ok value else .error .malformed

end PageBuilder.Json
