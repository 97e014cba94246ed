import SymbolAnnotations.Punctuation
import SymbolAnnotations.Rune.Letter
import SymbolAnnotations.Rune.DecimalDigit
import SymbolAnnotations.Rune.WhiteSpace

/-!
# Rune classes

The grammar of annotation files has no keywords and no operators of several
runes.  It only asks to which classes a rune belongs, and each class is a
Boolean test here.  An identifier is a letter or `_`, then letters and digits:
the underscore opens an identifier and never continues one.
-/

namespace SymbolAnnotations
namespace Rune

/-- A letter of any script. -/
def isLetter (rune : Char) : Bool :=
  letters.contains rune

/-- A decimal digit of any script. -/
def isDigit (rune : Char) : Bool :=
  decimalDigits.contains rune

/-- A rune that an identifier may begin with. -/
def startsIdentifier (rune : Char) : Bool :=
  rune == '_' || isLetter rune

/-- A rune that may stand in an identifier after the first.  The underscore is
not one of these. -/
def continuesIdentifier (rune : Char) : Bool :=
  isLetter rune || isDigit rune

/-- A rune that the name of an item may begin with: the start of an identifier,
or the parenthesis of a receiver. -/
def startsName (rune : Char) : Bool :=
  rune == Punctuation.openParen.rune || startsIdentifier rune

/-- White space of any kind, newline included. -/
def isWhiteSpace (rune : Char) : Bool :=
  whiteSpace.contains rune

/-- White space that stays on its line. -/
def isInlineWhiteSpace (rune : Char) : Bool :=
  rune != Punctuation.newline.rune && isWhiteSpace rune

/-- A rune that ends an item. -/
def isTerminator (rune : Char) : Bool :=
  rune == Punctuation.semicolon.rune || rune == Punctuation.newline.rune

/-- A rune that may stand between items: white space and semicolons. -/
def isSeparator (rune : Char) : Bool :=
  isWhiteSpace rune || rune == Punctuation.semicolon.rune

/-- A rune that a signature may begin with: neither a terminator nor the brace
that opens a block. -/
def startsSignature (rune : Char) : Bool :=
  !isTerminator rune && rune != Punctuation.openBrace.rune

end Rune

/-- The classes of runes that the grammar distinguishes. -/
inductive RuneClass where
  | letter
  | digit
  | identifierStart
  | identifierRest
  | nameStart
  | whiteSpace
  | inlineWhiteSpace
  | terminator
  | signatureStart
deriving DecidableEq, Repr

namespace RuneClass

/-- All classes. -/
def all : List RuneClass :=
  [letter, digit, identifierStart, identifierRest, nameStart, whiteSpace, inlineWhiteSpace,
    terminator, signatureStart]

/-- Whether the rune belongs to the class. -/
def contains : RuneClass → Char → Bool
  | letter => Rune.isLetter
  | digit => Rune.isDigit
  | identifierStart => Rune.startsIdentifier
  | identifierRest => Rune.continuesIdentifier
  | nameStart => Rune.startsName
  | whiteSpace => Rune.isWhiteSpace
  | inlineWhiteSpace => Rune.isInlineWhiteSpace
  | terminator => Rune.isTerminator
  | signatureStart => Rune.startsSignature

/-- The classes that the rune belongs to. -/
def ofRune (rune : Char) : List RuneClass :=
  all.filter (·.contains rune)

end RuneClass
end SymbolAnnotations
