/-!
# Structural punctuation

Seven runes carry structure in an annotation file.  Everything else that looks
like punctuation (commas, brackets, pipes) belongs to the text of a signature
and has no meaning here.  The dot that joins the segments of a symbol path is
not among the seven, because it is never written in a file.
-/

namespace SymbolAnnotations

/-- A rune with a structural meaning. -/
inductive Punctuation where
  /-- Opens a receiver name. -/
  | openParen
  /-- Closes a receiver name. -/
  | closeParen
  /-- Marks a pointer receiver. -/
  | star
  /-- Opens a block of nested items. -/
  | openBrace
  /-- Closes a block of nested items. -/
  | closeBrace
  /-- Ends an item. -/
  | semicolon
  /-- Ends an item. -/
  | newline
deriving DecidableEq, Repr

namespace Punctuation

/-- All structural punctuation. -/
def all : List Punctuation :=
  [openParen, closeParen, star, openBrace, closeBrace, semicolon, newline]

/-- The rune that the punctuation is written with. -/
def rune : Punctuation → Char
  | openParen => '('
  | closeParen => ')'
  | star => '*'
  | openBrace => '{'
  | closeBrace => '}'
  | semicolon => ';'
  | newline => '\n'

/-- What a message calls the punctuation. -/
def description : Punctuation → String
  | openParen => "`(`"
  | closeParen => "`)`"
  | star => "`*`"
  | openBrace => "`\x7b`"
  | closeBrace => "`\x7d`"
  | semicolon => "`;`"
  | newline => "a newline"

/-- The punctuation that a rune is, if it is structural. -/
def ofRune? (rune : Char) : Option Punctuation :=
  all.find? (·.rune == rune)

theorem mem_all (mark : Punctuation) : mark ∈ all := by
  cases mark <;> decide

theorem rune_injective {a b : Punctuation} (h : a.rune = b.rune) : a = b := by
  cases a <;> cases b <;> first | rfl | exact absurd h (by decide)

/-- A rune is punctuation exactly when it is written that way. -/
theorem ofRune?_eq_some_iff {rune : Char} {mark : Punctuation} :
    ofRune? rune = some mark ↔ mark.rune = rune := by
  constructor
  · intro h
    simpa using List.find?_some h
  · rintro rfl
    cases mark <;> decide

end Punctuation
end SymbolAnnotations
