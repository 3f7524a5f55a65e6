import PageBuilder.Text.Blank

/-!
# URLs of a page

Whatever a user gives as a URL ends up in links, images and frames.  A URL whose scheme can run a
script is replaced by `#`, however the scheme is disguised by case, blanks or control characters.
Inline images are let through, those that can hold a script excepted.
-/

namespace PageBuilder.Markup

/-- Control characters and the ASCII blanks: what a scheme may be disguised with. -/
def isDisguise (c : Char) : Bool :=
  c.toNat ≤ 0x20 || (0x7F ≤ c.toNat && c.toNat ≤ 0x9F)

/-- The characters of a URL that its scheme is recognized by. -/
def schemeChars (s : String) : List Char :=
  ((Text.trimChars s.toList).filter (!isDisguise ·)).map Char.toLower

/-- The schemes that can run a script. -/
def unsafeSchemes : List String := ["javascript:", "vbscript:", "data:"]

/-- Whether the characters of a URL name an inline image that holds no script. -/
def isInlineImage (cs : List Char) : Bool :=
  "data:image/".toList.isPrefixOf cs && !"data:image/svg".toList.isPrefixOf cs

/-- Whether the characters of a URL name a scheme that can run a script. -/
def isUnsafe (cs : List Char) : Bool :=
  !isInlineImage cs && unsafeSchemes.any (·.toList.isPrefixOf cs)

/-- The URL without the blanks around it, or `#` if its scheme can run a script. -/
def safeUrl (s : String) : String := if isUnsafe (schemeChars s) then "#" else Text.trim s

end PageBuilder.Markup
