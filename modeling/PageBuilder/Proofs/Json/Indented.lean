import PageBuilder.Proofs.Json.RoundTrip

/-!
# Indented texts

The indented text of a value is cut into the same tokens as the compact one: what indentation adds
are blanks before tokens, and a line break ends a number as a comma does.  So a shape reads an
indented text as it reads the value (`read_indented`).
-/

namespace PageBuilder.Json

theorem Scans.spaces {cs rest : List Char} {ts : List Token} (h : Scans cs ts rest) (n : Nat) :
    Scans (List.replicate n ' ' ++ cs) ts rest := by
  induction n with
  | zero => exact h
  | succ n ih => exact .blank rfl ih

/-- Before a token the line may be broken. -/
theorem Scans.lineBreak {cs rest : List Char} {ts : List Token} (h : Scans cs ts rest)
    (level : Nat) : Scans ((Json.lineBreak level).toList ++ cs) ts rest := by
  simpa [Json.lineBreak] using Scans.blank (c := '\n') rfl (h.spaces (2 * level))

/-- A value may be followed by a line break. -/
theorem ends_lineBreak (level : Nat) (cs : List Char) :
    Ends ((lineBreak level).toList ++ cs) := by
  simpa [lineBreak] using
    Ends.cons (Or.inr (Or.inr (Or.inr rfl))) (List.replicate (2 * level) ' ' ++ cs)

/-- A key, a colon and a space before a value. -/
theorem scans_member (key : String) {cs rest : List Char} {ts : List Token}
    (h : Scans cs ts rest) :
    Scans ((stringText key).toList ++ ':' :: ' ' :: cs) (.text (some key) :: .colon :: ts) rest :=
  (scans_stringText key _).append ((scans_colon _).append (.blank rfl h))

mutual

/-- The indented text of a value starts with the tokens of the value. -/
theorem scans_indented (level : Nat) : ∀ {v : Json} {rest : List Char}, v.Numbers Number.Exact →
    Ends rest → Scans ((indented level v).toList ++ rest) (tokensOf v) rest
  | .null, _, h, hrest | .bool _, _, h, hrest | .num _, _, h, hrest | .str _, _, h, hrest => by
      simpa [indented, compact] using scans_compact h hrest
  | .arr [], rest, _, _ => by
      have hopen := scans_mark '[' .openList (']' :: rest) rfl rfl nofun
      simpa [indented, tokensOf, tokensOfItems] using
        hopen.append (scans_mark ']' .closeList rest rfl rfl nofun)
  | .obj [], rest, _, _ => by
      have hopen := scans_mark '\x7b' .openObject ('\x7d' :: rest) rfl rfl nofun
      simpa [indented, tokensOf, tokensOfEntries] using
        hopen.append (scans_mark '\x7d' .closeObject rest rfl rfl nofun)
  | .arr (v :: more), rest, h, _ => by
      have hclose := (scans_mark ']' .closeList rest rfl rfl nofun).lineBreak level
      have hitems := scans_indentedItems (level + 1) h (ends_lineBreak level (']' :: rest))
      have hopen := scans_mark '[' .openList ((indentedItems (level + 1) (v :: more)).toList ++
        ((lineBreak level).toList ++ ']' :: rest)) rfl rfl nofun
      simpa [indented, tokensOf] using hopen.append (hitems.append hclose)
  | .obj (e :: more), rest, h, _ => by
      have hclose := (scans_mark '\x7d' .closeObject rest rfl rfl nofun).lineBreak level
      have hentries := scans_indentedEntries (level + 1) h (ends_lineBreak level ('\x7d' :: rest))
      have hopen := scans_mark '\x7b' .openObject
        ((indentedEntries (level + 1) (e :: more)).toList ++
          ((lineBreak level).toList ++ '\x7d' :: rest)) rfl rfl nofun
      simpa [indented, tokensOf] using hopen.append (hentries.append hclose)

theorem scans_indentedItems (level : Nat) : ∀ {items : List Json} {rest : List Char},
    NumbersOfItems Number.Exact items → Ends rest →
    Scans ((indentedItems level items).toList ++ rest) (tokensOfItems items) rest
  | [], rest, _, _ => .nil rest
  | [_], _, h, hrest => by
      have hv := (scans_indented level h.1 hrest).lineBreak level
      simpa [indentedItems, tokensOfItems] using hv
  | _ :: w :: more, rest, h, hrest => by
      have hmore := scans_indentedItems level h.2 hrest
      have hv := scans_indented level h.1
        (.cons (Or.inl rfl) ((indentedItems level (w :: more)).toList ++ rest))
      simpa [indentedItems, tokensOfItems] using
        (hv.append ((scans_comma _).append hmore)).lineBreak level

theorem scans_indentedEntries (level : Nat) : ∀ {entries : List (String × Json)}
    {rest : List Char}, NumbersOfEntries Number.Exact entries → Ends rest →
    Scans ((indentedEntries level entries).toList ++ rest) (tokensOfEntries entries) rest
  | [], rest, _, _ => .nil rest
  | [(key, _)], _, h, hrest => by
      have hv := scans_indented level h.1 hrest
      simpa [indentedEntries, tokensOfEntries] using (scans_member key hv).lineBreak level
  | (key, _) :: e :: more, rest, h, hrest => by
      have hmore := scans_indentedEntries level h.2 hrest
      have hv := scans_indented level h.1
        (.cons (Or.inl rfl) ((indentedEntries level (e :: more)).toList ++ rest))
      simpa [indentedEntries, tokensOfEntries] using
        (scans_member key (hv.append ((scans_comma _).append hmore))).lineBreak level

end

/-- The indented text of a value is cut into the tokens of the value. -/
theorem tokens_indented {v : Json} (h : v.Numbers Number.Exact) :
    tokens (v.indented 0) = tokensOf v := by
  have hscans := scans_indented 0 h Ends.nil
  rw [List.append_nil] at hscans
  exact hscans.scanTokens_eq rfl _ [] (Nat.lt_succ_self _)

/-- A shape reads the indented text of a value as it reads the value. -/
theorem read_indented {α : Type} (shape : Shape α) {v : Json} (h : v.Numbers Number.Exact) :
    shape.read (v.indented 0) = shape maxDepth (Draft.ofJson v) :=
  read_of_tokens shape (tokens_indented h)

end PageBuilder.Json
