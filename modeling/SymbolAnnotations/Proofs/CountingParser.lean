import SymbolAnnotations.Proofs.ReadingAgreement
import SymbolAnnotations.Proofs.ValidPrefix

/-!
# A parser that counts its blocks

The productions of the grammar are handed the readers for the blocks inside them,
one for each level of nesting, and so they need no counter.  The same sources can
be parsed with a counter: a `Parser` has a place in its source and the number of
blocks that are open.  It takes one rune after the other, and it keeps a record of
its past, which nothing depends on.

* `Parser` — a place, a counter and a past;
* `Parser.passWhile`, `Parser.passText`, `Parser.skipSeparators` — the loops over
  runes, which end because each round takes one;
* `Parser.offset_passOne_lt`, `Parser.offset_separatorStep_lt` — each round takes at
  least one byte.
-/

namespace SymbolAnnotations

namespace Cursor

theorem advance_zero (cursor : Cursor) : cursor.advance 0 = cursor := rfl

/-- One way after the other. -/
theorem advance_advance (cursor : Cursor) (count more : Nat) :
    (cursor.advance count).advance more = cursor.advance (count + more) := by
  simp only [advance, List.drop_drop, ← Position.afterAll_append, List.take_add]

/-- Behind the next token is the place one rune ahead. -/
theorem eq_advance_one_of_next {cursor after : Cursor} {token : Token}
    (h : cursor.next = .ok (some (token, after))) : after = cursor.advance 1 := by
  obtain ⟨runes, complete, position⟩ := cursor
  cases runes with
  | nil => cases complete <;> cases h
  | cons rune rest =>
      cases h
      rfl

/-- The bytes that lie between a place and one further ahead. -/
theorem byteOffset_advance (cursor : Cursor) (count : Nat) :
    (cursor.advance count).position.byteOffset =
      cursor.position.byteOffset + Utf8.size (cursor.runes.take count) :=
  Position.byteOffset_afterAll _ _

/-- Who takes a rune takes a byte. -/
theorem byteOffset_lt_of_remaining_lt {cursor after : Cursor}
    (h : ∃ count, after = cursor.advance count) (hlt : after.remaining < cursor.remaining) :
    cursor.position.byteOffset < after.position.byteOffset := by
  obtain ⟨count, rfl⟩ := h
  obtain ⟨runes, complete, position⟩ := cursor
  rw [remaining_advance] at hlt
  rw [byteOffset_advance]
  cases runes with
  | nil => simp [remaining] at hlt
  | cons rune rest =>
      cases count with
      | zero => omega
      | succ count =>
          have hrune := rune.utf8Size_pos
          rw [List.take_succ_cons, Utf8.size_cons]
          omega

end Cursor

namespace Source

/-- What a parser has to do with a token. -/
inductive Site where
  /-- A definition begins with the token, which is looked at and not taken. -/
  | definition
  /-- The token is taken to open a block. -/
  | opening
  /-- The token is taken where a block has to be closed. -/
  | closing
  /-- The token is taken as anything else. -/
  | other
deriving DecidableEq, Repr

/-- A moment in the past of a parser: a token, what it was for, and how many blocks
the parser counted then. -/
structure Moment where
  site : Site
  token : Token
  depth : Nat
deriving DecidableEq, Repr

/-- A parser at work. -/
structure Parser where
  cursor : Cursor
  /-- The number of blocks that are open. -/
  depth : Nat := 0
  /-- The moments so far, the last one first.  No step depends on them. -/
  past : List Moment := []
deriving DecidableEq, Repr

namespace Parser

/-- The parser in front of a source. -/
def start (source : ByteArray) : Parser :=
  { cursor := .ofBytes source }

/-- How many bytes are behind the parser. -/
def offset (parser : Parser) : Nat :=
  parser.cursor.position.byteOffset

/-- How many runes are ahead of it. -/
def remaining (parser : Parser) : Nat :=
  parser.cursor.remaining

/-- The parser with one more moment in its past. -/
def note (parser : Parser) (site : Site) (token : Token) : Parser :=
  { parser with past := ⟨site, token, parser.depth⟩ :: parser.past }

/-- The parser behind the next token. -/
def take (parser : Parser) (site : Site) (token : Token) (after : Cursor) : Parser :=
  { parser.note site token with cursor := after }

/-- The parser is as far as the other one or further. -/
def Reaches (parser other : Parser) : Prop :=
  ∃ count, other.cursor = parser.cursor.advance count

theorem Reaches.refl (parser : Parser) : parser.Reaches parser :=
  ⟨0, rfl⟩

theorem Reaches.trans {parser middle other : Parser} (h : parser.Reaches middle)
    (h' : middle.Reaches other) : parser.Reaches other := by
  obtain ⟨count, hmiddle⟩ := h
  obtain ⟨more, hother⟩ := h'
  exact ⟨count + more, by rw [hother, hmiddle, Cursor.advance_advance]⟩

theorem Reaches.remaining_le {parser other : Parser} (h : parser.Reaches other) :
    other.remaining ≤ parser.remaining := by
  obtain ⟨count, hother⟩ := h
  rw [remaining, hother, Cursor.remaining_advance]
  exact Nat.sub_le _ _

theorem Reaches.offset_lt {parser other : Parser} (h : parser.Reaches other)
    (hlt : other.remaining < parser.remaining) : parser.offset < other.offset :=
  Cursor.byteOffset_lt_of_remaining_lt h hlt

variable {parser : Parser} {token : Token} {after : Cursor}

theorem reaches_take (site : Site) (h : parser.cursor.next = .ok (some (token, after))) :
    parser.Reaches (parser.take site token after) :=
  ⟨1, Cursor.eq_advance_one_of_next h⟩

theorem remaining_take (site : Site) (h : parser.cursor.next = .ok (some (token, after))) :
    (parser.take site token after).remaining + 1 = parser.remaining :=
  Cursor.remaining_require (Cursor.require_eq_ok_iff.2 h)

/-- One round of a loop over runes: the next rune, if it passes the test, and the
parser behind it. -/
def passOne (test : Char → Bool) (parser : Parser) : Option (Char × Parser) :=
  match parser.cursor.next with
  | .ok (some (token, after)) =>
    if test token.rune then some (token.rune, parser.take .other token after) else none
  | _ => none

theorem passOne_eq_some_iff {test : Char → Bool} {rune : Char} {behind : Parser} :
    parser.passOne test = some (rune, behind) ↔
      ∃ token after, parser.cursor.next = .ok (some (token, after)) ∧ test rune = true ∧
        token.rune = rune ∧ behind = parser.take .other token after := by
  rw [passOne]
  split
  · rename_i token after hnext
    rw [Option.ite_none_right_eq_some]
    constructor
    · rintro ⟨htest, hsome⟩
      cases hsome
      exact ⟨token, after, hnext, htest, rfl, rfl⟩
    · rintro ⟨token', after', hnext', htest, rfl, rfl⟩
      cases hnext.symm.trans hnext'
      exact ⟨htest, rfl⟩
  · rename_i hnone
    constructor
    · intro hsome
      cases hsome
    · rintro ⟨token, after, hnext, -⟩
      exact absurd hnext (hnone token after)

/-- **Progress.**  Each round of a loop over runes takes one. -/
theorem remaining_passOne {test : Char → Bool} {rune : Char} {behind : Parser}
    (h : parser.passOne test = some (rune, behind)) :
    behind.remaining + 1 = parser.remaining := by
  obtain ⟨token, after, hnext, -, -, rfl⟩ := passOne_eq_some_iff.1 h
  exact remaining_take .other hnext

theorem reaches_passOne {test : Char → Bool} {rune : Char} {behind : Parser}
    (h : parser.passOne test = some (rune, behind)) : parser.Reaches behind := by
  obtain ⟨token, after, hnext, -, -, rfl⟩ := passOne_eq_some_iff.1 h
  exact reaches_take .other hnext

/-- Each round of a loop over runes takes at least one byte. -/
theorem offset_passOne_lt {test : Char → Bool} {rune : Char} {behind : Parser}
    (h : parser.passOne test = some (rune, behind)) : parser.offset < behind.offset :=
  (reaches_passOne h).offset_lt (by
    have := remaining_passOne h
    omega)

/-- Passes the runes that pass the test, and adds them to those that have been
read. -/
def passWhile (test : Char → Bool) (read : List Char) (parser : Parser) : List Char × Parser :=
  match _ : parser.passOne test with
  | some (rune, behind) => passWhile test (read ++ [rune]) behind
  | none => (read, parser)
termination_by parser.remaining
decreasing_by
  have := remaining_passOne ‹_›
  omega

/-- Passes the runes that belong to the text of a signature with so many braces
open, and adds them to those that have been read. -/
def passText (scope : Scope) (braces : Nat) (read : List Char) (parser : Parser) :
    List Char × Parser :=
  match _ : parser.passOne fun rune =>
      !(Rune.isTerminator rune || (braces == 0 && scope.closes rune)) with
  | some (rune, behind) => passText scope (bracesAfter rune braces) (read ++ [rune]) behind
  | none => (read, parser)
termination_by parser.remaining
decreasing_by
  have := remaining_passOne ‹_›
  omega

theorem reaches_passWhile (test : Char → Bool) (read : List Char) (parser : Parser) :
    parser.Reaches (parser.passWhile test read).2 := by
  fun_induction passWhile test read parser with
  | case1 read parser rune behind hpass ih => exact (reaches_passOne hpass).trans ih
  | case2 read parser => exact .refl parser

theorem reaches_passText (scope : Scope) (braces : Nat) (read : List Char) (parser : Parser) :
    parser.Reaches (parser.passText scope braces read).2 := by
  fun_induction passText scope braces read parser with
  | case1 braces read parser rune behind hpass ih => exact (reaches_passOne hpass).trans ih
  | case2 braces read parser => exact .refl parser

/-- One round of the loop over separators: all white space, and a semicolon behind
it. -/
def separatorStep (parser : Parser) : Option Parser :=
  ((parser.passWhile Rune.isWhiteSpace []).2.passOne (· == Punctuation.semicolon.rune)).map (·.2)

theorem remaining_separatorStep_lt {behind : Parser} (h : parser.separatorStep = some behind) :
    parser.Reaches behind ∧ behind.remaining < parser.remaining := by
  obtain ⟨⟨rune, behind⟩, hpass, rfl⟩ := Option.map_eq_some_iff.1 h
  have hspaces := reaches_passWhile Rune.isWhiteSpace [] parser
  have hle := hspaces.remaining_le
  have hone := remaining_passOne hpass
  have hlt : behind.remaining < parser.remaining := by omega
  exact ⟨hspaces.trans (reaches_passOne hpass), hlt⟩

/-- Each round of the loop over separators takes at least one byte. -/
theorem offset_separatorStep_lt {behind : Parser} (h : parser.separatorStep = some behind) :
    parser.offset < behind.offset := by
  obtain ⟨hreaches, hlt⟩ := remaining_separatorStep_lt h
  exact hreaches.offset_lt hlt

/-- Passes white space and semicolons. -/
def skipSeparators (parser : Parser) : Parser :=
  match _ : parser.separatorStep with
  | some behind => behind.skipSeparators
  | none => (parser.passWhile Rune.isWhiteSpace []).2
termination_by parser.remaining
decreasing_by exact (remaining_separatorStep_lt ‹_›).2

theorem reaches_skipSeparators (parser : Parser) : parser.Reaches parser.skipSeparators := by
  fun_induction skipSeparators parser with
  | case1 parser behind hstep ih => exact (remaining_separatorStep_lt hstep).1.trans ih
  | case2 parser => exact reaches_passWhile Rune.isWhiteSpace [] parser

end Parser

end Source
end SymbolAnnotations
