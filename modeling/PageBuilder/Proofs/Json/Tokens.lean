import Mathlib.Data.List.TakeWhile
import Mathlib.Data.Option.Basic
import PageBuilder.Json.Token
import PageBuilder.Json.Writer
import PageBuilder.Proofs.Json.Storable

/-!
# Tokens of a written text

A value is written as a sequence of tokens (`tokensOf`), and its compact text is cut into just
these, if its numbers are integers that fit (`tokens_compact`).  A numeral ends where a comma or a
closing bracket stands, so what follows a value in a text does not run into it (`Ends`).
-/

namespace PageBuilder.Json

/-! ## Numerals -/

theorem ofDigits_toDigits (n : Nat) : Decimal.ofDigits (Nat.toDigits 10 n) = n := by
  have hfold :
      Decimal.ofDigits (Nat.toDigits 10 n) = Nat.ofDigitChars 10 (Nat.toDigits 10 n) 0 := by
    rw [Nat.ofDigitChars_eq_foldl]
    rfl
  rw [hfold, Nat.ofDigitChars_ten_toDigits]

theorem isDigit_of_mem_toDigits {n : Nat} {c : Char} (h : c ∈ Nat.toDigits 10 n) : c.isDigit :=
  Nat.isDigit_of_mem_toDigits (by decide) (by decide) h

/-- A positive number is written without a leading zero. -/
theorem head?_toDigits {n : Nat} (h : 0 < n) : (Nat.toDigits 10 n).head? ≠ some '0' := by
  induction n using Nat.strongRecOn with
  | ind n ih =>
      rw [Nat.toDigits_eq_if (by decide)]
      split
      next hlt =>
        have hdigit : ∀ d < 10, 0 < d → Nat.digitChar d ≠ '0' := by decide
        simpa using hdigit n hlt h
      next hge =>
        have hrest := ih (n / 10) (by omega) (by omega)
        rwa [List.head?_append_of_ne_nil _ Nat.toDigits_ne_nil]

/-- What stands after a value: nothing, a comma, a closing bracket, or a line break. -/
def Ends (cs : List Char) : Prop :=
  ∀ c rest, cs = c :: rest → c = ',' ∨ c = ']' ∨ c = '\x7d' ∨ c = '\n'

theorem Ends.nil : Ends [] := by intro c rest h; cases h

theorem Ends.cons {c : Char} (h : c = ',' ∨ c = ']' ∨ c = '\x7d' ∨ c = '\n') (cs : List Char) :
    Ends (c :: cs) := by
  intro c' rest he
  cases he
  exact h

section

variable {rest : List Char}

theorem Ends.takeWhile (h : Ends rest) : rest.takeWhile Char.isDigit = [] := by
  cases rest with
  | nil => rfl
  | cons c cs =>
      obtain rfl | rfl | rfl | rfl := h c cs rfl
      all_goals rfl

theorem Ends.dropWhile (h : Ends rest) : rest.dropWhile Char.isDigit = rest := by
  cases rest with
  | nil => rfl
  | cons c cs =>
      obtain rfl | rfl | rfl | rfl := h c cs rfl
      all_goals rfl

theorem takeWhile_toDigits (n : Nat) (h : Ends rest) :
    (Nat.toDigits 10 n ++ rest).takeWhile Char.isDigit = Nat.toDigits 10 n := by
  rw [List.takeWhile_append_of_pos fun _ => isDigit_of_mem_toDigits, h.takeWhile, List.append_nil]

theorem dropWhile_toDigits (n : Nat) (h : Ends rest) :
    (Nat.toDigits 10 n ++ rest).dropWhile Char.isDigit = rest := by
  rw [List.dropWhile_append_of_pos fun _ => isDigit_of_mem_toDigits, h.dropWhile]

/-- The digits of a number are a whole part: there are some, and none too many. -/
theorem wholePart_toDigits (n : Nat) :
    (!(Nat.toDigits 10 n).isEmpty &&
      ((Nat.toDigits 10 n).length == 1 || (Nat.toDigits 10 n).head? != some '0')) = true := by
  have hne : (Nat.toDigits 10 n).isEmpty = false := by
    simp [List.isEmpty_eq_false_iff, Nat.toDigits_ne_nil]
  rw [hne]
  rcases Nat.eq_zero_or_pos n with hzero | hpos
  · subst hzero; rfl
  · simp [head?_toDigits hpos]

theorem scanNumeral_toDigits (n : Nat) (negative : Bool) (h : Ends rest) :
    scanNumeral ((if negative then ['-'] else []) ++ Nat.toDigits 10 n ++ rest) =
      some (⟨negative, Nat.toDigits 10 n, [], none⟩, rest) := by
  unfold scanNumeral
  split
  next sign text hsign =>
    have hparts : negative = sign ∧ Nat.toDigits 10 n ++ rest = text := by
      cases negative with
      | true =>
          cases hsign
          exact ⟨rfl, rfl⟩
      | false =>
          split at hsign
          next r hminus =>
            -- A number does not start with a minus.
            cases hd : Nat.toDigits 10 n with
            | nil => exact absurd hd Nat.toDigits_ne_nil
            | cons c cs =>
                have hdigit : c.isDigit := isDigit_of_mem_toDigits (hd ▸ List.mem_cons_self)
                simp only [hd, Bool.false_eq_true, if_false, List.nil_append, List.cons_append,
                  List.cons.injEq] at hminus
                rw [hminus.1] at hdigit
                cases hdigit
          next =>
            cases hsign
            exact ⟨rfl, rfl⟩
    obtain ⟨rfl, rfl⟩ := hparts
    simp only [takeWhile_toDigits n h, dropWhile_toDigits n h, wholePart_toDigits n]
    cases rest with
    | nil => rfl
    | cons c cs =>
        obtain rfl | rfl | rfl | rfl := h c cs rfl
        all_goals rfl

theorem value?_toDigits {n : Int} (h : Number.Fits (.int n)) :
    Numeral.value? ⟨decide (n < 0), Nat.toDigits 10 n.natAbs, [], none⟩ = some (.int n) := by
  obtain ⟨hlow, hhigh⟩ := h
  have hinteger :
      Numeral.integer? ⟨decide (n < 0), Nat.toDigits 10 n.natAbs, [], none⟩ = some n := by
    simp only [Numeral.integer?, ofDigits_toDigits, List.isEmpty_nil, Option.isSome_none,
      Bool.not_true, Bool.or_false, Bool.false_eq_true, if_false, decide_eq_true_eq]
    by_cases hneg : n < 0
    · have habs : -(n.natAbs : Int) = n := by omega
      have hpos : 0 < n.natAbs := by omega
      simp only [hneg, habs, hpos, hlow, decide_true, Bool.and_self, if_true]
    · have habs : (n.natAbs : Int) = n := by omega
      have hle : n.natAbs ≤ maxWord := by omega
      simp only [hneg, habs, hle, if_false, if_true]
  rw [Numeral.value?, hinteger]

theorem toList_integerText (n : Int) :
    (integerText n).toList =
      (if decide (n < 0) then ['-'] else []) ++ Nat.toDigits 10 n.natAbs := by
  by_cases h : n < 0 <;> simp [integerText, Decimal.digitText, h]

end

/-! ## Strings -/

/-- How a character is read back: as itself, or as the unit that stands for it. -/
def pieceOf (c : Char) : Piece :=
  if c.toNat < 0x20 && !(['\x08', '\x0c', '\n', '\r', '\t'].contains c) then .unit c.toNat
  else .char c

theorem unit?_hexDigit {n : Nat} (h : n < 0x20) :
    unit? '0' '0' (hexDigit (n / 16)) (hexDigit (n % 16)) = some n := by
  have hall : ∀ n < 0x20, unit? '0' '0' (hexDigit (n / 16)) (hexDigit (n % 16)) = some n := by
    decide
  exact hall n h

section

variable {done : List Piece} {rest : List Char}

theorem scanPieces_unit {a b c d : Char} {n : Nat} (h : unit? a b c d = some n) :
    scanPieces done ('\\' :: 'u' :: a :: b :: c :: d :: rest) =
      scanPieces (.unit n :: done) rest := by
  rw [scanPieces, h]

theorem scanPieces_escaped {e c : Char} (h : escaped? e = some c) :
    scanPieces done ('\\' :: e :: rest) = scanPieces (.char c :: done) rest := by
  have hunit : e ≠ 'u' := by
    rintro rfl
    cases h
  rw [scanPieces.eq_4 done e rest fun _ _ _ _ _ hu _ => hunit hu, h]

theorem scanPieces_plain {c : Char} (hquote : c ≠ '"') (hmark : c ≠ '\\')
    (hcontrol : ¬ c.toNat < 0x20) :
    scanPieces done (c :: rest) = scanPieces (.char c :: done) rest := by
  rw [scanPieces.eq_5 done c rest hquote (fun _ _ _ _ _ h _ => hmark h) fun _ _ h _ => hmark h,
    if_neg hcontrol]

end

theorem scanPieces_charText (c : Char) (done : List Piece) (rest : List Char) :
    scanPieces done (charText c ++ rest) = scanPieces (pieceOf c :: done) rest := by
  unfold charText
  split_ifs with hquote hbackslash hbackspace hfeed hnewline hreturn htab hcontrol
  · subst hquote; rfl
  · subst hbackslash; rfl
  · subst hbackspace; rfl
  · subst hfeed; rfl
  · subst hnewline; rfl
  · subst hreturn; rfl
  · subst htab; rfl
  · have hpiece : pieceOf c = .unit c.toNat := by
      simp [pieceOf, hcontrol, hbackspace, hfeed, hnewline, hreturn, htab]
    simp only [List.cons_append, List.nil_append]
    rw [scanPieces_unit (unit?_hexDigit hcontrol), hpiece]
  · have hpiece : pieceOf c = .char c := by simp [pieceOf, hcontrol]
    rw [List.singleton_append, scanPieces_plain hquote hbackslash hcontrol, hpiece]

theorem scanPieces_flatMap (cs : List Char) (rest : List Char) : ∀ done : List Piece,
    scanPieces done (cs.flatMap charText ++ '"' :: rest) =
      some (done.reverse ++ cs.map pieceOf, rest) := by
  induction cs with
  | nil =>
      intro done
      simp [scanPieces]
  | cons c cs ih =>
      intro done
      rw [List.flatMap_cons, List.append_assoc, scanPieces_charText, ih]
      simp

/-- A unit of a control character stands for that character, whatever follows. -/
theorem spell_unit {n : Nat} (h : n < 0x20) (done : List Char) (pieces : List Piece) :
    spell done (.unit n :: pieces) = spell (Char.ofNat n :: done) pieces := by
  have hleading : isLeading n = false := by simp [isLeading]; omega
  have htrailing : isTrailing n = false := by simp [isTrailing]; omega
  cases pieces with
  | nil => simp [spell, hleading, htrailing]
  | cons piece rest =>
      cases piece with
      | char c => simp [spell, hleading, htrailing]
      | unit m => simp [spell, hleading, htrailing]

theorem spell_map_pieceOf (cs : List Char) : ∀ done : List Char,
    spell done (cs.map pieceOf) = some (done.reverse ++ cs) := by
  induction cs with
  | nil =>
      intro done
      simp [spell]
  | cons c cs ih =>
      intro done
      rw [List.map_cons, pieceOf]
      split
      next hcontrol =>
        have hlt : c.toNat < 0x20 := by simpa using (Bool.and_eq_true_iff.mp hcontrol).1
        rw [spell_unit hlt, Char.ofNat_toNat, ih]
        simp
      next =>
        rw [spell, ih]
        simp

theorem toList_stringText (s : String) (rest : List Char) :
    (stringText s).toList ++ rest = '"' :: (s.toList.flatMap charText ++ '"' :: rest) := by
  simp [stringText]

/-- A string that was written is read as one token. -/
theorem scanToken_stringText (s : String) (rest : List Char) :
    scanToken ((stringText s).toList ++ rest) = (.text (some s), rest) := by
  rw [toList_stringText, scanToken, scanPieces_flatMap]
  simp [spell_map_pieceOf]

/-! ## Sequences of tokens -/

/-- A text starts with some tokens, and `rest` follows.  Before a token there may be blanks. -/
inductive Scans : List Char → List Token → List Char → Prop where
  | nil (cs : List Char) : Scans cs [] cs
  | blank {c : Char} {cs rest : List Char} {ts : List Token} :
      isSpace c = true → Scans cs ts rest → Scans (c :: cs) ts rest
  | cons {c : Char} {cs tail rest : List Char} {token : Token} {ts : List Token} :
      isSpace c = false → scanToken (c :: cs) = (token, tail) → token ≠ .bad →
      tail.length ≤ cs.length → Scans tail ts rest → Scans (c :: cs) (token :: ts) rest

theorem Scans.append {cs mid rest : List Char} {ts us : List Token} (h : Scans cs ts mid)
    (h' : Scans mid us rest) : Scans cs (ts ++ us) rest := by
  induction h with
  | nil => exact h'
  | blank hspace _ ih => exact .blank hspace (ih h')
  | cons hspace hscan hbad hlen _ ih => exact .cons hspace hscan hbad hlen (ih h')

/-- A text that is all tokens is cut into them. -/
theorem Scans.scanTokens_eq {cs rest : List Char} {ts : List Token} (h : Scans cs ts rest) :
    rest = [] → ∀ (fuel : Nat) (done : List Token), cs.length < fuel →
      scanTokens fuel done cs = done.reverse ++ ts := by
  induction h with
  | nil cs =>
      rintro rfl fuel done hfuel
      cases fuel with
      | zero => cases hfuel
      | succ fuel => simp [scanTokens]
  | @blank c cs rest ts hspace _ ih =>
      intro hrest fuel done hfuel
      cases fuel with
      | zero => cases hfuel
      | succ fuel =>
          rw [List.length_cons] at hfuel
          have hskip : scanTokens (fuel + 1) done (c :: cs) = scanTokens (fuel + 1) done cs := by
            simp only [scanTokens, List.dropWhile_cons_of_pos hspace]
          rw [hskip]
          exact ih hrest (fuel + 1) done (by omega)
  | @cons c cs tail rest token ts hspace hscan hbad hlen _ ih =>
      intro hrest fuel done hfuel
      cases fuel with
      | zero => cases hfuel
      | succ fuel =>
          have hdrop : (c :: cs).dropWhile isSpace = c :: cs := by simp [hspace]
          rw [List.length_cons] at hfuel
          rw [scanTokens, hdrop]
          simp only [hscan]
          rw [ih hrest fuel (token :: done) (by omega), List.reverse_cons, List.append_assoc]
          rfl

/-! ## Tokens of values -/

mutual

/-- The tokens that a value is written as. -/
def tokensOf : Json → List Token
  | .null => [.null]
  | .bool b => [.bool b]
  | .num n => [.number (some n)]
  | .str s => [.text (some s)]
  | .arr items => .openList :: (tokensOfItems items ++ [.closeList])
  | .obj entries => .openObject :: (tokensOfEntries entries ++ [.closeObject])

/-- The tokens of some items with commas between them. -/
def tokensOfItems : List Json → List Token
  | [] => []
  | [v] => tokensOf v
  | v :: rest => tokensOf v ++ .comma :: tokensOfItems rest

/-- The tokens of some entries with commas between them. -/
def tokensOfEntries : List (String × Json) → List Token
  | [] => []
  | [(key, v)] => .text (some key) :: .colon :: tokensOf v
  | (key, v) :: rest =>
      .text (some key) :: .colon :: (tokensOf v ++ .comma :: tokensOfEntries rest)

end

theorem scans_mark (c : Char) (token : Token) (cs : List Char) (hspace : isSpace c = false)
    (hscan : scanToken (c :: cs) = (token, cs)) (hbad : token ≠ .bad) :
    Scans (c :: cs) [token] cs :=
  .cons hspace hscan hbad (Nat.le_refl _) (.nil cs)

theorem scans_stringText (s : String) (rest : List Char) :
    Scans ((stringText s).toList ++ rest) [.text (some s)] rest := by
  have hscan := scanToken_stringText s rest
  rw [toList_stringText] at hscan ⊢
  exact .cons rfl hscan nofun (by simp; omega) (.nil rest)

theorem isSpace_of_isDigit {c : Char} (h : c.isDigit = true) : isSpace c = false := by
  rw [Bool.eq_false_iff]
  intro hspace
  simp only [isSpace, Bool.or_eq_true, decide_eq_true_eq] at hspace
  obtain ((rfl | rfl) | rfl) | rfl := hspace
  all_goals cases h

/-- No other token starts with a minus or a digit. -/
theorem scanToken_of_scanNumeral {c : Char} {cs rest : List Char} {n : Numeral}
    (hc : c = '-' ∨ c.isDigit = true) (h : scanNumeral (c :: cs) = some (n, rest)) :
    scanToken (c :: cs) = (.number n.value?, rest) := by
  unfold scanToken
  split
  case h_11 => rw [h]
  all_goals
    next heq =>
      cases heq
      exact absurd hc (by decide)

theorem scans_integerText {n : Int} (hn : Number.Fits (.int n)) {rest : List Char}
    (h : Ends rest) : Scans ((integerText n).toList ++ rest) [.number (some (.int n))] rest := by
  have hscan := scanNumeral_toDigits n.natAbs (decide (n < 0)) h
  rw [toList_integerText]
  cases htext : (if decide (n < 0) then ['-'] else []) ++ Nat.toDigits 10 n.natAbs with
  | nil => exact absurd (List.append_eq_nil_iff.mp htext).2 Nat.toDigits_ne_nil
  | cons c cs =>
      have hc : c = '-' ∨ c.isDigit = true := by
        by_cases hneg : n < 0
        · simp only [hneg, decide_true, if_true, List.singleton_append, List.cons.injEq] at htext
          exact Or.inl htext.1.symm
        · simp only [hneg, decide_false, Bool.false_eq_true, if_false, List.nil_append] at htext
          exact Or.inr (isDigit_of_mem_toDigits (htext ▸ List.mem_cons_self))
      have hspace : isSpace c = false := by
        rcases hc with hminus | hdigit
        · exact hminus ▸ rfl
        · exact isSpace_of_isDigit hdigit
      rw [htext] at hscan
      have htoken := scanToken_of_scanNumeral hc hscan
      rw [value?_toDigits hn] at htoken
      exact .cons hspace htoken nofun (by simp) (.nil rest)

/-! ## What is written reads back -/

theorem scans_comma (cs : List Char) : Scans (',' :: cs) [.comma] cs :=
  scans_mark ',' .comma cs rfl rfl nofun

theorem scans_colon (cs : List Char) : Scans (':' :: cs) [.colon] cs :=
  scans_mark ':' .colon cs rfl rfl nofun

mutual

/-- The compact text of a value starts with the tokens of the value. -/
theorem scans_compact : ∀ {v : Json} {rest : List Char}, v.Numbers Number.Exact → Ends rest →
    Scans ((compact v).toList ++ rest) (tokensOf v) rest
  | .null, rest, _, _ => .cons rfl rfl nofun (by simp; omega) (.nil rest)
  | .bool true, rest, _, _ => .cons rfl rfl nofun (by simp; omega) (.nil rest)
  | .bool false, rest, _, _ => .cons rfl rfl nofun (by simp; omega) (.nil rest)
  | .num (.int _), _, h, hrest => scans_integerText h.2 hrest
  | .num (.float _), _, h, _ => h.1.elim
  | .str s, rest, _, _ => scans_stringText s rest
  | .arr items, rest, h, _ => by
      have hends : Ends (']' :: rest) := .cons (Or.inr (Or.inl rfl)) rest
      have hitems := scans_compactItems h hends
      have hopen := scans_mark '[' .openList ((compactItems items).toList ++ ']' :: rest)
        rfl rfl nofun
      have hclose := scans_mark ']' .closeList rest rfl rfl nofun
      simpa [compact, tokensOf] using hopen.append (hitems.append hclose)
  | .obj entries, rest, h, _ => by
      have hends : Ends ('\x7d' :: rest) := .cons (Or.inr (Or.inr (Or.inl rfl))) rest
      have hentries := scans_compactEntries h hends
      have hopen := scans_mark '\x7b' .openObject
        ((compactEntries entries).toList ++ '\x7d' :: rest) rfl rfl nofun
      have hclose := scans_mark '\x7d' .closeObject rest rfl rfl nofun
      simpa [compact, tokensOf] using hopen.append (hentries.append hclose)

theorem scans_compactItems : ∀ {items : List Json} {rest : List Char},
    NumbersOfItems Number.Exact items → Ends rest →
    Scans ((compactItems items).toList ++ rest) (tokensOfItems items) rest
  | [], rest, _, _ => .nil rest
  | [_], _, h, hrest => scans_compact h.1 hrest
  | _ :: w :: more, rest, h, hrest => by
      have hmore := scans_compactItems h.2 hrest
      have hv := scans_compact h.1 (.cons (Or.inl rfl) ((compactItems (w :: more)).toList ++ rest))
      simpa [compactItems, tokensOfItems] using hv.append ((scans_comma _).append hmore)

theorem scans_compactEntries : ∀ {entries : List (String × Json)} {rest : List Char},
    NumbersOfEntries Number.Exact entries → Ends rest →
    Scans ((compactEntries entries).toList ++ rest) (tokensOfEntries entries) rest
  | [], rest, _, _ => .nil rest
  | [(key, _)], _, h, hrest => by
      have hv := scans_compact h.1 hrest
      have hkey := (scans_stringText key _).append ((scans_colon _).append hv)
      simpa [compactEntries, tokensOfEntries] using hkey
  | (key, _) :: e :: more, rest, h, hrest => by
      have hmore := scans_compactEntries h.2 hrest
      have hv := scans_compact h.1
        (.cons (Or.inl rfl) ((compactEntries (e :: more)).toList ++ rest))
      have hkey := (scans_stringText key _).append
        ((scans_colon _).append (hv.append ((scans_comma _).append hmore)))
      simpa [compactEntries, tokensOfEntries] using hkey

end

/-- The compact text of a value is cut into the tokens of the value. -/
theorem tokens_compact {v : Json} (h : v.Numbers Number.Exact) :
    tokens v.compact = tokensOf v := by
  have hscans := scans_compact h Ends.nil
  rw [List.append_nil] at hscans
  exact hscans.scanTokens_eq rfl _ [] (Nat.lt_succ_self _)

end PageBuilder.Json
