import SymbolAnnotations.Rune.RuneSet

/-!
# White space

The runes with the Unicode property White_Space.  The zero width space is
not one of them; the line and paragraph separators are.
-/

namespace SymbolAnnotations

/-- The ranges of the property White_Space. -/
def whiteSpaceRanges : List RuneRange :=
  [⟨0x9, 0xd⟩, ⟨0x20, 0x20⟩, ⟨0x85, 0x85⟩, ⟨0xa0, 0xa0⟩, ⟨0x1680, 0x1680⟩, ⟨0x2000, 0x200a⟩,
  ⟨0x2028, 0x2029⟩, ⟨0x202f, 0x202f⟩, ⟨0x205f, 0x205f⟩, ⟨0x3000, 0x3000⟩]

/-- The white space runes, newline included. -/
def whiteSpace : RuneSet :=
  .ofRanges whiteSpaceRanges (by decide +kernel)

end SymbolAnnotations
