import PageBuilder.Json.Token

/-!
# Percent-encoded text

A percent sign with two hexadecimal digits stands for a byte; every other character stands for
itself, a percent sign without digits too.  The bytes must be UTF-8.
-/

namespace PageBuilder.Text

/-- The bytes that some bytes stand for. -/
def percentBytes : List UInt8 → List UInt8
  | [] => []
  | b :: high :: low :: rest =>
      if b = 0x25 then
        match Json.hexValue? (Char.ofNat high.toNat), Json.hexValue? (Char.ofNat low.toNat) with
        | some h, some l => .ofNat (16 * h + l) :: percentBytes rest
        | _, _ => b :: percentBytes (high :: low :: rest)
      else b :: percentBytes (high :: low :: rest)
  | b :: rest => b :: percentBytes rest

/-- The text that a percent-encoded text stands for. -/
def percentDecode? (s : String) : Option String :=
  String.fromUTF8? ⟨(percentBytes s.toUTF8.toList).toArray⟩

end PageBuilder.Text
