import SymbolAnnotations.Item
import SymbolAnnotations.Source.Cursor

/-!
# The productions of the grammar

    File       ::= List                              end of input
    List       ::= (Separator* Item)* Separator*
    Item       ::= Name Definition Terminator?       on one line
    Name       ::= Identifier | "(" "*" Identifier ")"
    Definition ::= Signature | "{" List "}"

Each production reads from a cursor and yields what it has read together with
the place behind it, or the first fault.  The definition of an item begins on
the line of its name, nothing but a terminator may follow it there, and inside
a block the closing brace may end an item as well.  A signature is text up to
the end of the item: braces inside it are only counted, so that inside a block
the brace that closes the block is told from the braces of the text.

Blocks nest through a parameter.  An item does not know how a block is read;
it is handed a `BlockReader`, and `blockWithin` builds the readers for ever
more levels of nesting.  A reader promises not to give back more than is ahead
of it, which is why reading comes to an end.
-/

namespace SymbolAnnotations
namespace Source

/-- How many blocks may be open at once. -/
def maxNesting : Nat := 128

/-- Where an item stands. -/
inductive Scope where
  | file
  | block
deriving DecidableEq, Repr

/-- Whether the rune closes the block around the item.  At file level a brace
closes nothing. -/
def Scope.closes : Scope → Char → Bool
  | file, _ => false
  | block, rune => rune == Punctuation.closeBrace.rune

/-- An identifier.  Something has to follow it, because no item ends in a
name. -/
def identifier (cursor : Cursor) : Except ParseError (String × Cursor) := do
  let (first, inside) ← cursor.require
  if Rune.startsIdentifier first.rune then
    let (rest, after) := inside.takeWhile Rune.continuesIdentifier
    let _ ← after.require
    return (String.ofList (first.rune :: rest), after)
  else
    throw (.unexpected first .identifier)

/-- The given punctuation. -/
def expect (mark : Punctuation) (cursor : Cursor) : Except ParseError Cursor := do
  let (found, after) ← cursor.require
  if found.rune = mark.rune then
    return after
  else
    throw (.unexpected found (.punctuation mark))

/-- A pointer receiver.  White space of any kind may stand between its
parts. -/
def receiver (cursor : Cursor) : Except ParseError (ItemName × Cursor) := do
  let afterParen ← expect .openParen cursor
  let afterStar ← expect .star afterParen.skipWhiteSpace
  let (typeName, afterType) ← identifier afterStar.skipWhiteSpace
  let after ← expect .closeParen afterType.skipWhiteSpace
  return (.receiver typeName, after)

/-- The name of an item. -/
def name (cursor : Cursor) : Except ParseError (ItemName × Cursor) := do
  let (first, _) ← cursor.require
  if first.rune = Punctuation.openParen.rune then
    receiver cursor
  else if Rune.startsIdentifier first.rune then
    let (text, after) ← identifier cursor
    return (.plain text, after)
  else
    throw (.unexpected first .name)

/-- The number of braces of the text that are still open behind a rune.  A
closing brace without an opening one counts for nothing. -/
def bracesAfter (rune : Char) (braces : Nat) : Nat :=
  if rune = Punctuation.openBrace.rune then braces + 1
  else if rune = Punctuation.closeBrace.rune then braces - 1
  else braces

/-- How many more runes belong to the text of a signature that is `length`
runes long so far and has `braces` open: all up to a terminator or up to the
brace that closes the block. -/
def signatureLength (scope : Scope) (braces length : Nat) : List Char → Nat
  | [] => length
  | rune :: rest =>
    if Rune.isTerminator rune || (braces == 0 && scope.closes rune) then length
    else signatureLength scope (bracesAfter rune braces) (length + 1) rest

/-- The runes without white space at either end. -/
def trim (runes : List Char) : List Char :=
  ((runes.dropWhile Rune.isWhiteSpace).reverse.dropWhile Rune.isWhiteSpace).reverse

/-- The text of a signature.  Malformed bytes right behind it are a fault. -/
def signature (scope : Scope) (cursor : Cursor) : Except ParseError (String × Cursor) := do
  let (first, _) ← cursor.require
  if Rune.startsSignature first.rune && !scope.closes first.rune then
    let length := signatureLength scope 0 0 cursor.runes
    let after := cursor.advance length
    let _ ← after.next
    return (String.ofList (trim (cursor.runes.take length)), after)
  else
    throw (.unexpected first .signature)

/-- Reads a block behind its opening brace, which it is given to complain
about.  It gives back no more than is ahead. -/
structure BlockReader where
  read : Token → Cursor → Except ParseError (List Leaf × Cursor)
  remaining_le : ∀ {brace cursor leaves after},
    read brace cursor = .ok (leaves, after) → after.remaining ≤ cursor.remaining

/-- What an item gives its name: a block, or a signature. -/
def definition (blocks : BlockReader) (scope : Scope) (cursor : Cursor) :
    Except ParseError (List Leaf × Cursor) := do
  let (first, inside) ← cursor.require
  if first.rune = Punctuation.openBrace.rune then
    blocks.read first inside
  else
    let (text, after) ← signature scope cursor
    return ([⟨[], text⟩], after)

/-- The end of an item.  A terminator is consumed; the brace that closes the
block is left for the block. -/
def endOfItem (scope : Scope) (cursor : Cursor) : Except ParseError Cursor := do
  match ← cursor.next with
  | none => return cursor
  | some (token, after) =>
    if scope.closes token.rune then return cursor
    else if Rune.isTerminator token.rune then return after
    else throw (.unexpected token .terminator)

/-- An item with its terminator. -/
def item (blocks : BlockReader) (scope : Scope) (cursor : Cursor) :
    Except ParseError (List Leaf × Cursor) := do
  let (name, afterName) ← name cursor
  let (leaves, afterDefinition) ← definition blocks scope afterName.skipInlineWhiteSpace
  let after ← endOfItem scope afterDefinition.skipInlineWhiteSpace
  return (leaves.map (.under name), after)

end Source
end SymbolAnnotations
