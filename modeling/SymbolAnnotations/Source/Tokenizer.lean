import SymbolAnnotations.Source.Cursor

/-!
# The token stream

A tokenizer hands out the tokens of a source one after the other.  It decodes
one rune at a time, where it stands, and counts bytes, runes and lines as it
goes.  A token that has been looked at is kept until it is taken.  Looking
ahead and skipping do no harm, and a fault does not move the tokenizer.  As a
stream (`pull`) it yields the first fault once and nothing after it.

* `pending_take_lt` — taking a token leaves less to read, so skipping and
  collecting come to an end.
-/

namespace SymbolAnnotations

/-- A source, a place in it, and the token there if it has been looked at. -/
structure Tokenizer where
  source : ByteArray
  byteOffset : Nat := 0
  runeOffset : Nat := 0
  /-- The rune offset at which the current line starts. -/
  lineStart : Nat := 0
  line : Nat := 1
  /-- The token that has been looked at and not been taken yet. -/
  lookahead : Option Token := none
  /-- Whether the stream has yielded a fault. -/
  halted : Bool := false

namespace Tokenizer

/-- A tokenizer at the start of a source. -/
def ofBytes (source : ByteArray) : Tokenizer :=
  { source }

/-- The column, counted from the start of the line. -/
def column (tokens : Tokenizer) : Nat :=
  tokens.runeOffset - tokens.lineStart + 1

/-- Where the tokenizer stands. -/
def position (tokens : Tokenizer) : Position where
  line := tokens.line
  column := tokens.column
  byteOffset := tokens.byteOffset
  runeOffset := tokens.runeOffset

/-- Whether every byte has been taken. -/
def isAtEnd (tokens : Tokenizer) : Bool :=
  tokens.source.size ≤ tokens.byteOffset

/-- The fault of ending here. -/
def truncation (tokens : Tokenizer) : ParseError :=
  .truncated tokens.position

/-- The token that is decoded here, or `none` at the end. -/
def decode (tokens : Tokenizer) : Except ParseError (Option Token) :=
  if tokens.isAtEnd then
    .ok none
  else
    match Utf8.runeAt? tokens.source tokens.byteOffset with
    | some rune => .ok (some { rune, position := tokens.position })
    | none => .error (.malformed tokens.position)

/-- The token that follows, or `none` at the end. -/
def peek (tokens : Tokenizer) : Except ParseError (Option Token) :=
  match tokens.lookahead with
  | some token => .ok (some token)
  | none => tokens.decode

/-- The tokenizer after a look at the token that follows, which it keeps. -/
def lookAhead (tokens : Tokenizer) : Tokenizer :=
  match tokens.peek with
  | .ok (some token) => { tokens with lookahead := some token }
  | _ => tokens

/-- The tokenizer behind a token.  A newline starts a line. -/
def take (tokens : Tokenizer) (token : Token) : Tokenizer :=
  let runeOffset := tokens.runeOffset + 1
  { tokens with
    byteOffset := tokens.byteOffset + token.size
    runeOffset
    lineStart := if token.rune = '\n' then runeOffset else tokens.lineStart
    line := if token.rune = '\n' then tokens.line + 1 else tokens.line
    lookahead := none }

/-- Takes the token that follows.  At the end, and at a fault, the tokenizer
stays where it is. -/
def advance (tokens : Tokenizer) : Except ParseError (Option Token) × Tokenizer :=
  match tokens.peek with
  | .ok (some token) => (.ok (some token), tokens.take token)
  | .ok none => (.ok none, tokens)
  | .error fault => (.error fault, tokens)

/-- Pulls the next item of the stream: a token, the fault that ends the stream,
or `none` when it is over. -/
def pull (tokens : Tokenizer) : Option (Except ParseError Token) × Tokenizer :=
  if tokens.halted then
    (none, tokens)
  else
    match tokens.advance with
    | (.ok (some token), tokens) => (some (.ok token), tokens)
    | (.ok none, tokens) => (none, tokens)
    | (.error fault, tokens) => (some (.error fault), { tokens with halted := true })

/-- How much there is to read: the bytes ahead count twice, and a token that is
kept counts once more. -/
def pending (tokens : Tokenizer) : Nat :=
  2 * (tokens.source.size - tokens.byteOffset) + tokens.lookahead.toList.length

/-- What is decoded lies within the source and takes at least one byte. -/
theorem decode_within {tokens : Tokenizer} {token : Token}
    (h : tokens.decode = .ok (some token)) :
    tokens.byteOffset < tokens.source.size ∧ 0 < token.size := by
  rw [decode] at h
  by_cases hend : tokens.isAtEnd = true
  · rw [if_pos hend] at h
    cases h
  · rw [if_neg hend] at h
    cases hrune : Utf8.runeAt? tokens.source tokens.byteOffset with
    | none =>
      rw [hrune] at h
      cases h
    | some rune =>
      rw [hrune] at h
      cases h
      rw [isAtEnd, decide_eq_true_eq] at hend
      exact ⟨Nat.lt_of_not_le hend, rune.utf8Size_pos⟩

/-- Taking the token that follows leaves less to read. -/
theorem pending_take_lt {tokens : Tokenizer} {token : Token}
    (h : tokens.peek = .ok (some token)) : (tokens.take token).pending < tokens.pending := by
  rw [peek] at h
  cases hkept : tokens.lookahead with
  | some kept =>
    simp only [pending, take, hkept, Option.toList_none, Option.toList_some, List.length_nil,
      List.length_singleton]
    omega
  | none =>
    rw [hkept] at h
    have hwithin := decode_within h
    simp only [pending, take, hkept, Option.toList_none, List.length_nil]
    omega

/-- Passes the longest run of runes that pass the test.  The rune behind them
has been looked at then, and bytes that encode none are left for the next
look. -/
def skipWhile (test : Char → Bool) (tokens : Tokenizer) : Tokenizer :=
  match _ : tokens.peek with
  | .ok (some token) =>
    if test token.rune then skipWhile test (tokens.take token) else tokens.lookAhead
  | _ => tokens
termination_by tokens.pending
decreasing_by exact pending_take_lt ‹_›

/-- Passes all white space. -/
def skipWhiteSpace (tokens : Tokenizer) : Tokenizer :=
  tokens.skipWhile Rune.isWhiteSpace

/-- Passes the white space on this line. -/
def skipInlineWhiteSpace (tokens : Tokenizer) : Tokenizer :=
  tokens.skipWhile Rune.isInlineWhiteSpace

/-- The place of the tokenizer with the runes of all bytes that it has not taken,
whatever token it keeps. -/
def cursor (tokens : Tokenizer) : Cursor :=
  let decoding := Utf8.decode (tokens.source.extract tokens.byteOffset tokens.source.size)
  { runes := decoding.runes, complete := decoding.complete, position := tokens.position }

/-- A token that is pulled has been taken. -/
theorem pull_eq_some_ok {tokens after : Tokenizer} {token : Token}
    (h : tokens.pull = (some (.ok token), after)) :
    tokens.peek = .ok (some token) ∧ after = tokens.take token := by
  simp only [pull, advance] at h
  split at h
  · cases h
  · cases hpeek : tokens.peek with
    | error fault => simp [hpeek] at h
    | ok token? =>
      cases token? with
      | none => simp [hpeek] at h
      | some found =>
        simp only [hpeek, Prod.mk.injEq, Option.some.injEq, Except.ok.injEq] at h
        obtain ⟨rfl, rfl⟩ := h
        exact ⟨rfl, rfl⟩

/-- Pulls all that the stream yields, where `earlier` holds the tokens so far,
the last one first. -/
def collect (tokens : Tokenizer) (earlier : List Token) : Except ParseError (List Token) :=
  match _ : tokens.pull with
  | (none, _) => .ok earlier.reverse
  | (some (.error fault), _) => .error fault
  | (some (.ok token), after) => collect after (token :: earlier)
termination_by tokens.pending
decreasing_by
  obtain ⟨hpeek, rfl⟩ := pull_eq_some_ok ‹_›
  exact pending_take_lt hpeek

/-- All tokens of a source, or its first fault. -/
def tokenize (source : ByteArray) : Except ParseError (List Token) :=
  (ofBytes source).collect []

end Tokenizer
end SymbolAnnotations
