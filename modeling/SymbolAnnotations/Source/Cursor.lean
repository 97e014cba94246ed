import SymbolAnnotations.Rune.Class
import SymbolAnnotations.Source.Error
import SymbolAnnotations.Text.Utf8

/-!
# Reading forward

A cursor is a place in a source together with the runes that follow it.  All
reading goes through it: one token (`next`), one token that has to be there
(`require`), or a whole run of runes (`advance`, `takeWhile`).  A cursor does
not look at bytes: where its runes end, it only knows whether the source ends
there too or goes on with malformed bytes, and so a malformed source is at
fault only for a reader that gets that far.

* `next_eq_ok_some_iff` — a token is the first rune of what follows;
* `runes_takeWhile`, `remaining_skipWhile_le` — taking a run splits what
  follows and never adds to it.
-/

namespace SymbolAnnotations

/-- A place in a source and what follows it. -/
structure Cursor where
  /-- The runes that follow, as far as they are well-formed. -/
  runes : List Char
  /-- Whether the source ends after these runes. -/
  complete : Bool
  position : Position := {}
deriving DecidableEq, Repr

namespace Cursor

/-- The start of a source. -/
def ofBytes (source : ByteArray) : Cursor :=
  let decoding := Utf8.decode source
  { runes := decoding.runes, complete := decoding.complete }

/-- How many runes follow. -/
def remaining (cursor : Cursor) : Nat :=
  cursor.runes.length

/-- Whether nothing follows, not even malformed bytes. -/
def isAtEnd (cursor : Cursor) : Bool :=
  cursor.runes.isEmpty && cursor.complete

/-- The token that follows and the place behind it, or `none` at the end of the
source. -/
@[inline] def next (cursor : Cursor) : Except ParseError (Option (Token × Cursor)) :=
  match cursor.runes with
  | rune :: rest =>
    .ok (some ({ rune, position := cursor.position },
      { cursor with runes := rest, position := cursor.position.after rune }))
  | [] => if cursor.complete then .ok none else .error (.malformed cursor.position)

/-- The token that follows, or `none` at the end of the source. -/
def peek (cursor : Cursor) : Except ParseError (Option Token) :=
  cursor.next.map (·.map (·.1))

/-- The fault of ending here. -/
def truncation (cursor : Cursor) : ParseError :=
  .truncated cursor.position

/-- The token that follows and the place behind it; the source must not end
here. -/
@[inline] def require (cursor : Cursor) : Except ParseError (Token × Cursor) :=
  match cursor.next with
  | .ok (some step) => .ok step
  | .ok none => .error cursor.truncation
  | .error fault => .error fault

/-- The place `count` runes ahead. -/
def advance (cursor : Cursor) (count : Nat) : Cursor :=
  { cursor with
    runes := cursor.runes.drop count
    position := cursor.position.afterAll (cursor.runes.take count) }

/-- The longest run of runes ahead that pass the test, and the place behind
it. -/
def takeWhile (test : Char → Bool) (cursor : Cursor) : List Char × Cursor :=
  let run := cursor.runes.takeWhile test
  (run, { cursor with
    runes := cursor.runes.dropWhile test
    position := cursor.position.afterAll run })

/-- The place behind the longest run of runes that pass the test. -/
def skipWhile (test : Char → Bool) (cursor : Cursor) : Cursor :=
  (cursor.takeWhile test).2

/-- Past all white space. -/
def skipWhiteSpace (cursor : Cursor) : Cursor :=
  cursor.skipWhile Rune.isWhiteSpace

/-- Past the white space on this line. -/
def skipInlineWhiteSpace (cursor : Cursor) : Cursor :=
  cursor.skipWhile Rune.isInlineWhiteSpace

/-- Past everything that may stand between items. -/
def skipSeparators (cursor : Cursor) : Cursor :=
  cursor.skipWhile Rune.isSeparator

/-- The token that follows is the first rune ahead with the bytes of its
encoding, and it leads to the place behind that rune. -/
theorem next_eq_ok_some_iff {cursor after : Cursor} {token : Token} :
    cursor.next = .ok (some (token, after)) ↔
      cursor.runes = token.rune :: after.runes ∧ token.position = cursor.position ∧
        token.size = token.rune.utf8Size ∧ after.complete = cursor.complete ∧
        after.position = cursor.position.after token.rune := by
  obtain ⟨runes, complete, position⟩ := cursor
  obtain ⟨rune, place, size⟩ := token
  obtain ⟨runes', complete', position'⟩ := after
  cases runes with
  | nil => cases complete <;> simp [next]
  | cons first rest =>
    simp only [next, Except.ok.injEq, Option.some.injEq, Prod.mk.injEq, Token.mk.injEq,
      Cursor.mk.injEq, List.cons.injEq]
    constructor
    · rintro ⟨⟨rfl, rfl, rfl⟩, rfl, rfl, rfl⟩
      simp
    · rintro ⟨⟨rfl, rfl⟩, rfl, rfl, rfl, rfl⟩
      simp

/-- What `require` yields is what `next` yields. -/
theorem require_eq_ok_iff {cursor after : Cursor} {token : Token} :
    cursor.require = .ok (token, after) ↔ cursor.next = .ok (some (token, after)) := by
  unfold require
  split <;> simp_all

/-- Reading a required token leaves one rune less. -/
theorem remaining_require {cursor after : Cursor} {token : Token}
    (h : cursor.require = .ok (token, after)) : after.remaining + 1 = cursor.remaining := by
  have hnext := next_eq_ok_some_iff.1 (require_eq_ok_iff.1 h)
  simp [remaining, hnext.1]

/-- A run and what is behind it make up what was ahead. -/
theorem runes_takeWhile (test : Char → Bool) (cursor : Cursor) :
    (cursor.takeWhile test).1 ++ (cursor.takeWhile test).2.runes = cursor.runes :=
  List.takeWhile_append_dropWhile

/-- Skipping a run adds nothing to what is ahead. -/
theorem remaining_skipWhile_le (test : Char → Bool) (cursor : Cursor) :
    (cursor.skipWhile test).remaining ≤ cursor.remaining := by
  have h := congrArg List.length (runes_takeWhile test cursor)
  rw [List.length_append] at h
  rw [skipWhile, remaining, remaining]
  omega

/-- Advancing adds nothing to what is ahead. -/
theorem remaining_advance (cursor : Cursor) (count : Nat) :
    (cursor.advance count).remaining = cursor.remaining - count :=
  List.length_drop

end Cursor
end SymbolAnnotations
