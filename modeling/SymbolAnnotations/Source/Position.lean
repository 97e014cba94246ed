/-!
# Positions and tokens

A token is one rune together with its place in the source.  Lines and columns
count from one, and columns count runes; offsets count from zero, one in bytes
and one in runes.
-/

namespace SymbolAnnotations

/-- A place between two runes of a source. -/
structure Position where
  line : Nat := 1
  column : Nat := 1
  byteOffset : Nat := 0
  runeOffset : Nat := 0
deriving DecidableEq, Repr, Inhabited

namespace Position

/-- The place behind a rune that stands here.  A newline ends its line. -/
def after (position : Position) (rune : Char) : Position where
  line := if rune = '\n' then position.line + 1 else position.line
  column := if rune = '\n' then 1 else position.column + 1
  byteOffset := position.byteOffset + rune.utf8Size
  runeOffset := position.runeOffset + 1

/-- The place behind a run of runes that starts here. -/
def afterAll (position : Position) (runes : List Char) : Position :=
  runes.foldl after position

@[simp] theorem afterAll_nil (position : Position) : position.afterAll [] = position := rfl

@[simp] theorem afterAll_cons (position : Position) (rune : Char) (rest : List Char) :
    position.afterAll (rune :: rest) = (position.after rune).afterAll rest := rfl

theorem afterAll_append (position : Position) (front back : List Char) :
    position.afterAll (front ++ back) = (position.afterAll front).afterAll back :=
  List.foldl_append

end Position

/-- A stretch of bytes of a source. -/
structure Span where
  offset : Nat
  length : Nat
deriving DecidableEq, Repr

/-- A rune and its place. -/
structure Token where
  rune : Char
  position : Position
  /-- The number of bytes that the rune takes in its source. -/
  size : Nat := rune.utf8Size
deriving DecidableEq, Repr

namespace Token

/-- The bytes of the token. -/
def span (token : Token) : Span :=
  ⟨token.position.byteOffset, token.size⟩

end Token
end SymbolAnnotations
