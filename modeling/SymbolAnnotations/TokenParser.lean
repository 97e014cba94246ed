import SymbolAnnotations.Source.Tokenizer
import SymbolAnnotations.Store

/-!
# A parser over a tokenizer

A parser can be handed a tokenizer that has been used, and goes on from where it
stands.  It owns the tokenizer from then on, with the token that it keeps, and counts
the blocks that are open.  It looks at the token that follows, takes it, has white
space skipped, and asks for the fault of ending where it stands; it never looks at
the bytes of the source itself.

The productions are those of `Source`, but each of them changes the parser, and
yields texts and stores instead of names and leaves.  A loop repeats its round until
the round is done (`repeatM`), and nothing is promised about how often.  How a block
inside of a block is read is a parameter: `nested` has room for so many of them
inside each other, and comes to no end below that.

* `block`, `definition` — the blocks that count, and the guard in front of them;
* `Store.readOn` — the whole of what follows a tokenizer.
-/

namespace SymbolAnnotations

/-- A parser that owns its tokenizer. -/
structure TokenParser where
  tokens : Tokenizer
  /-- The number of blocks that are open. -/
  depth : Nat := 0

instance : Inhabited TokenParser :=
  ⟨{ tokens := .ofBytes .empty }⟩

namespace TokenParser

/-- What a parser does: it changes the parser and yields a value or a fault, if it
comes to an end at all.  The changes in front of a fault stay. -/
abbrev Method := ExceptT ParseError (StateT TokenParser Option)

/-- Comes to no end. -/
def stuck {α : Type} : Method α :=
  ExceptT.mk fun _ => none

/-- Looks at the token that follows, whatever is found there. -/
def glance : Method (Except ParseError (Option Token)) :=
  modifyGet fun parser =>
    (parser.tokens.peek, { parser with tokens := parser.tokens.lookAhead })

/-- Looks at the token that follows, which is `none` at the end of the source. -/
def peek : Method (Option Token) := do
  ofExcept (← glance)

/-- Takes the token that follows, whatever is found there. -/
def grab : Method (Except ParseError (Option Token)) :=
  modifyGet fun parser =>
    (parser.tokens.advance.1, { parser with tokens := parser.tokens.advance.2 })

/-- Takes the token that follows, which is `none` at the end of the source. -/
def advance : Method (Option Token) := do
  ofExcept (← grab)

/-- The source ends too early. -/
def truncated {α : Type} : Method α := do
  throw (← get).tokens.truncation

/-- Looks at a token that has to follow. -/
def peekRequired : Method Token := do
  match ← peek with
  | some token => return token
  | none => truncated

/-- Takes a token that has to follow. -/
def nextRequired : Method Token := do
  match ← advance with
  | some token => return token
  | none => truncated

/-- Has all white space skipped. -/
def skipWhiteSpace : Method Unit :=
  modify fun parser => { parser with tokens := parser.tokens.skipWhiteSpace }

/-- Has the white space on this line skipped. -/
def skipInlineWhiteSpace : Method Unit :=
  modify fun parser => { parser with tokens := parser.tokens.skipInlineWhiteSpace }

/-- Whether the token closes a block that is open. -/
def closesBlock (token : Token) : Method Bool := do
  return 0 < (← get).depth && token.rune == Punctuation.closeBrace.rune

/-- Takes the given punctuation. -/
def expect (mark : Punctuation) : Method Token := do
  let found ← nextRequired
  if found.rune = mark.rune then
    return found
  else
    throw (.unexpected found (.punctuation mark))

/-- One round of `skipSeparators`: white space, and a semicolon behind it.  A fault
is left for the next look. -/
def separatorStep (_ : Unit) : Method (Unit ⊕ Unit) := do
  skipWhiteSpace
  match ← glance with
  | .ok (some token) =>
    if token.rune = Punctuation.semicolon.rune then
      let _ ← grab
      return .inl ()
    else
      return .inr ()
  | _ => return .inr ()

/-- Skips everything that may stand between items. -/
def skipSeparators : Method Unit :=
  repeatM separatorStep ()

/-- One round of `identifier`, behind the text that has been read. -/
def identifierStep (text : String) : Method (String ⊕ String) := do
  let token ← peekRequired
  if Rune.continuesIdentifier token.rune then
    let _ ← advance
    return .inl (text.push token.rune)
  else
    return .inr text

/-- An identifier. -/
def identifier : Method String := do
  let first ← nextRequired
  if Rune.startsIdentifier first.rune then
    repeatM identifierStep (String.singleton first.rune)
  else
    throw (.unexpected first .identifier)

/-- A pointer receiver, as it is spelled. -/
def receiver : Method String := do
  let _ ← expect .openParen
  skipWhiteSpace
  let _ ← expect .star
  skipWhiteSpace
  let typeName ← identifier
  skipWhiteSpace
  let _ ← expect .closeParen
  return SymbolPath.receiver typeName

/-- The name of an item, as it is spelled. -/
def name : Method String := do
  let token ← peekRequired
  if token.rune = Punctuation.openParen.rune then
    receiver
  else if Rune.startsIdentifier token.rune then
    identifier
  else
    throw (.unexpected token .name)

/-- How far the text of a signature has been read. -/
structure Passage where
  /-- The token that has been taken and does not count yet. -/
  token : Token
  /-- The braces of the text that are open in front of it. -/
  braces : Nat := 0
  /-- The text in front of it. -/
  text : String := ""

/-- One round of `signature`: the token counts, and the one that follows is taken if
it belongs to the text. -/
def signatureStep (passage : Passage) : Method (Passage ⊕ String) := do
  let braces := Source.bracesAfter passage.token.rune passage.braces
  let text := passage.text.push passage.token.rune
  match ← peek with
  | none => return .inr text
  | some next =>
    if Rune.isTerminator next.rune then
      return .inr text
    else if braces == 0 && (← closesBlock next) then
      return .inr text
    else
      let _ ← advance
      return .inl { token := next, braces, text }

/-- The text of a signature. -/
def signature : Method String := do
  let first ← nextRequired
  if !Rune.startsSignature first.rune || (← closesBlock first) then
    throw (.unexpected first .signature)
  else
    let text ← repeatM signatureStep { token := first }
    return String.ofList (Source.trim text.toList)

/-- A block, from its opening brace on, which is counted as long as it is open. -/
def block (nested : Method Store) : Method Store := do
  let _ ← advance
  modify fun parser => { parser with depth := parser.depth + 1 }
  skipWhiteSpace
  let inside ← nested
  skipWhiteSpace
  let _ ← expect .closeBrace
  modify fun parser => { parser with depth := parser.depth - 1 }
  return inside

/-- What an item gives its name: a block with the paths inside of it, or a signature
under the empty path.  **The guard** stands in front of each block. -/
def definition (nested : Method Store) : Method Store := do
  let token ← peekRequired
  if token.rune = Punctuation.openBrace.rune then
    if Source.maxNesting ≤ (← get).depth then
      throw (.unexpected token .shallowerNesting)
    else
      block nested
  else
    let text ← signature
    return .ofList [("", text)]

/-- Takes the end of an item, but for the brace that closes the block around it. -/
def endOfItem : Method Unit := do
  match ← peek with
  | none => return ()
  | some token =>
    if ← closesBlock token then
      return ()
    else if Rune.isTerminator token.rune then
      let _ ← advance
    else
      throw (.unexpected token .terminator)

/-- An item with its terminator.  Its name qualifies the paths of its definition. -/
def item (nested : Method Store) : Method Store := do
  let outer ← name
  skipInlineWhiteSpace
  let inside ← definition nested
  skipInlineWhiteSpace
  endOfItem
  return .ofList (inside.toList.map (Prod.map (SymbolPath.qualify outer) id))

/-- One round of `list`: the next item, added to those in front of it.  What comes
later replaces what was there. -/
def itemStep (nested : Method Store) (annotations : Store) : Method (Store ⊕ Store) := do
  skipSeparators
  match ← peek with
  | none => return .inr annotations
  | some token =>
    if Rune.startsName token.rune then
      let found ← item nested
      return .inl (annotations.insertAll found.toList)
    else
      return .inr annotations

/-- A list of items. -/
def list (nested : Method Store) : Method Store :=
  repeatM (itemStep nested) .empty

/-- The list inside of a block, where there is room for so many blocks inside each
other. -/
def nested : (room : Nat) → Method Store
  | 0 => stuck
  | room + 1 => list (nested room)

/-- Everything up to the end of the source, with room for as many blocks as the guard
lets through. -/
def parse : Method Store := do
  let annotations ← list (nested Source.maxNesting)
  skipSeparators
  match ← peek with
  | none => return annotations
  | some token => throw (.unexpected token .name)

end TokenParser

/-- The store of what follows a tokenizer, if parsing it comes to an end. -/
def Store.readOn (tokens : Tokenizer) : Option (Except ParseError Store) :=
  (TokenParser.parse.run { tokens }).map (·.1)

end SymbolAnnotations
