import SymbolAnnotations.Punctuation
import SymbolAnnotations.Rune.Quoted
import SymbolAnnotations.Source.Position

/-!
# What can be wrong with a source

Reading stops at the first fault, and there are three: bytes that encode no
rune, a token that the grammar has no use for, and an end of input inside an
item.  Each knows its place; the wording is derived from the cause.
-/

namespace SymbolAnnotations

/-- What the grammar would have accepted in place of an unexpected token. -/
inductive Expectation where
  | name
  | identifier
  | signature
  /-- A block that does not exceed the nesting limit. -/
  | shallowerNesting
  /-- The end of an item. -/
  | terminator
  | punctuation (mark : Punctuation)
  /-- Anything else, in the words of whoever reads the tokens. -/
  | other (text : String)
deriving DecidableEq, Repr

namespace Expectation

/-- What a message calls the expectation. -/
def description : Expectation → String
  | name => "a name"
  | identifier => "an identifier"
  | signature => "a type signature"
  | shallowerNesting => "a shallower nesting"
  | terminator => "`;` or a newline"
  | punctuation mark => mark.description
  | other text => text

/-- The expectations of the grammar. -/
def all : List Expectation :=
  [name, identifier, signature, shallowerNesting, terminator] ++ Punctuation.all.map punctuation

/-- The expectation that is called by this text. -/
def ofDescription (text : String) : Expectation :=
  (all.find? (·.description == text)).getD (other text)

theorem description_ofDescription (text : String) : (ofDescription text).description = text := by
  rw [ofDescription]
  cases h : all.find? (·.description == text) with
  | none => rfl
  | some expected => simpa using List.find?_some h

end Expectation

/-- The kinds of faults. -/
inductive ErrorKind where
  | encoding
  | grammar
  | truncation
deriving DecidableEq, Repr

namespace ErrorKind

/-- The name of the kind. -/
def description : ErrorKind → String
  | encoding => "encoding error"
  | grammar => "syntax error"
  | truncation => "truncation error"

/-- The code under which a report files the kind. -/
def code : ErrorKind → String
  | encoding => "sgoann::encoding"
  | grammar => "sgoann::syntax"
  | truncation => "sgoann::truncation"

/-- What a report writes under the place of the fault. -/
def label : ErrorKind → String
  | encoding => "invalid byte sequence"
  | grammar => "unexpected token"
  | truncation => "input ends here"

/-- Advice that goes with the kind. -/
def help? : ErrorKind → Option String
  | encoding => some "annotation files must be UTF-8 encoded"
  | grammar => none
  | truncation => some "the last item is incomplete"

end ErrorKind

/-- The first fault of a source. -/
inductive ParseError where
  /-- The bytes here encode no rune. -/
  | malformed (place : Position)
  /-- The grammar expected something else than this token. -/
  | unexpected (found : Token) (expected : Expectation)
  /-- The source ends here, inside an item. -/
  | truncated (place : Position)
deriving DecidableEq, Repr

namespace ParseError

/-- The kind of the fault. -/
def kind : ParseError → ErrorKind
  | malformed _ => .encoding
  | unexpected _ _ => .grammar
  | truncated _ => .truncation

/-- The place of the fault. -/
def position : ParseError → Position
  | malformed place => place
  | unexpected found _ => found.position
  | truncated place => place

/-- The bytes at fault: the first malformed byte, the token, or none at the end
of the source. -/
def span : ParseError → Span
  | malformed place => ⟨place.byteOffset, 1⟩
  | unexpected found _ => found.span
  | truncated place => ⟨place.byteOffset, 0⟩

/-- The line of the fault. -/
def line (error : ParseError) : Nat :=
  error.position.line

/-- The column of the fault, in runes. -/
def column (error : ParseError) : Nat :=
  error.position.column

/-- The message for the fault. -/
def message (error : ParseError) : String :=
  let place := toString error.line ++ ":" ++ toString error.column
  match error with
  | malformed _ => "invalid UTF-8 character starting at " ++ place
  | unexpected found expected =>
    "unexpected token at " ++ place ++ ": " ++ Rune.quoted found.rune ++ ", expected " ++
      expected.description
  | truncated _ => "unexpected end of file at " ++ place

end ParseError
end SymbolAnnotations
