import SymbolAnnotations.Proofs.ValidPrefix
import SymbolAnnotations.Source.Tokenizer

/-!
# A tokenizer under any calls

Whatever calls are made on a tokenizer, and in whatever order, it has taken some
number of the runes of its source, and everything else about it follows from
that number: its counters, the token that it keeps, what it answers and how far
it goes.  The cursor behind so many runes says the same in one place, so each
call is compared with that cursor.

* `StandsBehind.peek_eq` — the tokenizer finds what the cursor finds, whether it
  has looked before or not;
* `StandsBehind.call` — one call leads behind more runes or stays;
* `standsBehind_after` — and so does any number of calls;
* `Agree.call`, `Agree.answers_eq` — tokenizers that differ only in what they
  have looked at answer alike for ever;
* `calls_count_runes` — what this means for the counters and the answers.
-/

namespace SymbolAnnotations

/-- A cursor finds a token, the end of the source, or malformed bytes. -/
theorem Cursor.peek_eq (cursor : Cursor) :
    cursor.peek =
      if cursor.isAtEnd then .ok none
      else
        match cursor.runes.head? with
        | some rune => .ok (some { rune, position := cursor.position })
        | none => .error (.malformed cursor.position) := by
  obtain ⟨runes, complete, position⟩ := cursor
  cases runes with
  | nil => cases complete <;> rfl
  | cons rune rest => rfl

/-- The token that a cursor finds is that of the first rune ahead. -/
theorem Cursor.peek_eq_ok_some_iff {cursor : Cursor} {token : Token} :
    cursor.peek = .ok (some token) ↔
      ∃ rune, cursor.runes.head? = some rune ∧ token = { rune, position := cursor.position } := by
  obtain ⟨runes, complete, position⟩ := cursor
  cases runes with
  | nil => cases complete <;> simp [peek, next, Except.map]
  | cons rune rest => simp [peek, next, Except.map, eq_comm]

namespace Tokenizer

/-- The cursor behind so many runes of a source. -/
def cursorBehind (source : ByteArray) (taken : Nat) : Cursor :=
  (Cursor.ofBytes source).advance taken

/-- The tokenizer has taken so many runes of the source, its counters agree with
them, and the token that it keeps, if any, is the one that it would decode. -/
structure StandsBehind (tokens : Tokenizer) (source : ByteArray) (taken : Nat) : Prop where
  source_eq : tokens.source = source
  taken_le : taken ≤ (Utf8.decode source).runes.length
  position_eq : tokens.position = (cursorBehind source taken).position
  lineStart_le : tokens.lineStart ≤ tokens.runeOffset
  decode_of_lookahead : ∀ token, tokens.lookahead = some token →
    tokens.decode = .ok (some token)

theorem standsBehind_ofBytes (source : ByteArray) : (ofBytes source).StandsBehind source 0 where
  source_eq := rfl
  taken_le := Nat.zero_le _
  position_eq := rfl
  lineStart_le := Nat.le_refl _
  decode_of_lookahead := by
    intro token hkept
    cases hkept

theorem runes_cursorBehind (source : ByteArray) (taken : Nat) :
    (cursorBehind source taken).runes = (Utf8.decode source).runes.drop taken := rfl

/-- One rune further, a cursor has that rune behind it. -/
theorem position_cursorBehind_succ {source : ByteArray} {taken : Nat} {rune : Char}
    (h : (Utf8.decode source).runes[taken]? = some rune) :
    (cursorBehind source (taken + 1)).position =
      (cursorBehind source taken).position.after rune := by
  simp only [cursorBehind, Cursor.advance, Cursor.ofBytes]
  rw [List.take_add_one, h, Option.toList_some, Position.afterAll_append]
  rfl

namespace StandsBehind

variable {tokens : Tokenizer} {source : ByteArray} {taken : Nat}

theorem byteOffset_eq (h : tokens.StandsBehind source taken) :
    tokens.byteOffset = Utf8.size ((Utf8.decode source).runes.take taken) := by
  have hoffset := congrArg Position.byteOffset h.position_eq
  simp only [position, cursorBehind, Cursor.advance, Cursor.ofBytes, Position.byteOffset_afterAll,
    Nat.zero_add] at hoffset
  exact hoffset

/-- A source ends behind its last rune, if its bytes are all well-formed. -/
theorem isAtEnd_eq (h : tokens.StandsBehind source taken) :
    tokens.isAtEnd = (cursorBehind source taken).isAtEnd := by
  obtain ⟨tail, hbytes, -, hcomplete⟩ := Utf8.eq_utf8Encode_runes_append source
  have hsize := congrArg ByteArray.size hbytes
  rw [ByteArray.size_append, Utf8.size_utf8Encode,
    ← List.take_append_drop taken (Utf8.decode source).runes, Utf8.size_append] at hsize
  simp only [isAtEnd, cursorBehind, Cursor.isAtEnd, Cursor.advance, Cursor.ofBytes, hcomplete,
    h.source_eq, h.byteOffset_eq]
  cases hback : (Utf8.decode source).runes.drop taken with
  | nil =>
      rw [hback, Utf8.size_nil] at hsize
      simp only [List.isEmpty_nil, Bool.true_and, decide_eq_decide]
      omega
  | cons rune rest =>
      have hrune := rune.utf8Size_pos
      rw [hback, Utf8.size_cons] at hsize
      simp only [List.isEmpty_cons, Bool.false_and, decide_eq_false_iff_not]
      omega

/-- What is decoded behind some runes is what the cursor there finds. -/
theorem decode_eq (h : tokens.StandsBehind source taken) :
    tokens.decode = (cursorBehind source taken).peek := by
  have hrune : Utf8.runeAt? tokens.source tokens.byteOffset =
      (cursorBehind source taken).runes.head? := by
    rw [h.source_eq, h.byteOffset_eq]
    exact Utf8.runeAt?_of_runes_eq (List.take_append_drop taken _).symm
  rw [decode, h.isAtEnd_eq, hrune, h.position_eq]
  exact (Cursor.peek_eq _).symm

/-- **Looking ahead does not matter.**  The tokenizer finds what the cursor
finds. -/
theorem peek_eq (h : tokens.StandsBehind source taken) :
    tokens.peek = (cursorBehind source taken).peek := by
  rw [← h.decode_eq, peek]
  cases hkept : tokens.lookahead with
  | none => rfl
  | some token => exact (h.decode_of_lookahead token hkept).symm

/-- The token that follows is that of the next rune. -/
theorem of_peek (h : tokens.StandsBehind source taken) {token : Token}
    (hpeek : tokens.peek = .ok (some token)) :
    (Utf8.decode source).runes[taken]? = some token.rune ∧
      token.position = tokens.position ∧ token.size = token.rune.utf8Size := by
  rw [h.peek_eq] at hpeek
  obtain ⟨rune, hrune, rfl⟩ := Cursor.peek_eq_ok_some_iff.1 hpeek
  rw [runes_cursorBehind, List.head?_drop] at hrune
  exact ⟨hrune, h.position_eq.symm, rfl⟩

theorem peek_of_getElem? (h : tokens.StandsBehind source taken) {rune : Char}
    (hrune : (Utf8.decode source).runes[taken]? = some rune) :
    tokens.peek = .ok (some { rune, position := tokens.position }) := by
  rw [h.peek_eq, h.position_eq]
  refine Cursor.peek_eq_ok_some_iff.2 ⟨rune, ?_, rfl⟩
  rw [runes_cursorBehind, List.head?_drop, hrune]

/-- Behind the last rune there is the end of the source, or malformed bytes. -/
theorem peek_of_eq_length (h : tokens.StandsBehind source taken)
    (hlast : taken = (Utf8.decode source).runes.length) :
    tokens.peek = if tokens.isAtEnd then .ok none else .error (.malformed tokens.position) := by
  rw [h.peek_eq, Cursor.peek_eq, h.isAtEnd_eq, h.position_eq, runes_cursorBehind, hlast,
    List.drop_length]
  rfl

/-- The counters move on by one rune. -/
theorem take (h : tokens.StandsBehind source taken) {token : Token}
    (hpeek : tokens.peek = .ok (some token)) :
    (tokens.take token).StandsBehind source (taken + 1) := by
  obtain ⟨hrune, -, hsize⟩ := h.of_peek hpeek
  have hline := h.lineStart_le
  refine ⟨h.source_eq, (List.getElem?_eq_some_iff.1 hrune).1, ?_, ?_, ?_⟩
  · rw [position_cursorBehind_succ hrune, ← h.position_eq]
    by_cases hnewline : token.rune = '\n'
    · simp [Tokenizer.take, position, column, Position.after, hnewline, hsize]
    · simp [Tokenizer.take, position, column, Position.after, hnewline, hsize]
      omega
  · simp only [Tokenizer.take]
    split <;> omega
  · intro kept hkept
    cases hkept

theorem lookAhead (h : tokens.StandsBehind source taken) :
    tokens.lookAhead.StandsBehind source taken := by
  rw [Tokenizer.lookAhead]
  split
  · rename_i token hpeek
    refine ⟨h.source_eq, h.taken_le, h.position_eq, h.lineStart_le, ?_⟩
    intro kept hkept
    cases hkept
    exact h.decode_eq.trans (h.peek_eq.symm.trans hpeek)
  · exact h

/-- A skipped run is the longest run of runes ahead that pass the test. -/
theorem skipWhile (test : Char → Bool) (h : tokens.StandsBehind source taken) :
    (tokens.skipWhile test).StandsBehind source
      (taken + (((Utf8.decode source).runes.drop taken).takeWhile test).length) := by
  fun_induction Tokenizer.skipWhile test tokens generalizing taken with
  | case1 tokens token hpeek htest ih =>
      obtain ⟨hlt, hrune⟩ := List.getElem?_eq_some_iff.1 (h.of_peek hpeek).1
      rw [List.drop_eq_getElem_cons hlt, hrune, List.takeWhile_cons_of_pos htest,
        List.length_cons, Nat.add_comm _ 1, ← Nat.add_assoc]
      exact ih (h.take hpeek)
  | case2 tokens token hpeek htest =>
      obtain ⟨hlt, hrune⟩ := List.getElem?_eq_some_iff.1 (h.of_peek hpeek).1
      rw [List.drop_eq_getElem_cons hlt, hrune, List.takeWhile_cons_of_neg htest]
      exact h.lookAhead
  | case3 tokens hpeek =>
      have hlast : (Utf8.decode source).runes.drop taken = [] := by
        rw [← List.head?_eq_none_iff, List.head?_drop]
        cases hrune : (Utf8.decode source).runes[taken]? with
        | none => rfl
        | some rune => exact absurd (h.peek_of_getElem? hrune) (hpeek _)
      rw [hlast]
      exact h

/-- A token is taken if one follows. -/
theorem advance_of_getElem? (h : tokens.StandsBehind source taken) {rune : Char}
    (hrune : (Utf8.decode source).runes[taken]? = some rune) :
    tokens.advance.1 = .ok (some { rune, position := tokens.position }) ∧
      tokens.advance.2.StandsBehind source (taken + 1) ∧
      tokens.advance.2.halted = tokens.halted := by
  have hpeek := h.peek_of_getElem? hrune
  rw [advance, hpeek]
  exact ⟨rfl, h.take hpeek, rfl⟩

/-- Behind the last rune nothing moves. -/
theorem advance_of_eq_length (h : tokens.StandsBehind source taken)
    (hlast : taken = (Utf8.decode source).runes.length) :
    tokens.advance =
      (if tokens.isAtEnd then .ok none else .error (.malformed tokens.position), tokens) := by
  rw [advance, h.peek_of_eq_length hlast]
  cases tokens.isAtEnd <;> rfl

theorem halt (h : tokens.StandsBehind source taken) :
    StandsBehind { tokens with halted := true } source taken :=
  ⟨h.source_eq, h.taken_le, h.position_eq, h.lineStart_le, h.decode_of_lookahead⟩

end StandsBehind

theorem halted_lookAhead (tokens : Tokenizer) : tokens.lookAhead.halted = tokens.halted := by
  rw [lookAhead]
  split <;> rfl

theorem halted_skipWhile (test : Char → Bool) (tokens : Tokenizer) :
    (tokens.skipWhile test).halted = tokens.halted := by
  fun_induction skipWhile test tokens with
  | case1 tokens token hpeek htest ih => exact ih
  | case2 tokens => exact tokens.halted_lookAhead
  | case3 => rfl

/-- A stream that goes on pulls what can be taken, and ends with a fault. -/
theorem pull_eq {tokens : Tokenizer} (hgoing : tokens.halted = false) :
    tokens.pull =
      match tokens.advance.1 with
      | .ok (some token) => (some (.ok token), tokens.advance.2)
      | .ok none => (none, tokens.advance.2)
      | .error fault => (some (.error fault), { tokens.advance.2 with halted := true }) := by
  rw [pull, hgoing, if_neg Bool.false_ne_true]
  obtain ⟨found, after⟩ := tokens.advance
  cases found with
  | error fault => rfl
  | ok token? => cases token? <;> rfl

namespace StandsBehind

variable {tokens : Tokenizer} {source : ByteArray} {taken : Nat}

/-- A stream that goes on yields the next rune. -/
theorem pull_of_getElem? (h : tokens.StandsBehind source taken)
    (hgoing : tokens.halted = false) {rune : Char}
    (hrune : (Utf8.decode source).runes[taken]? = some rune) :
    tokens.pull = (some (.ok { rune, position := tokens.position }), tokens.advance.2) := by
  rw [pull_eq hgoing, (h.advance_of_getElem? hrune).1]

/-- Behind the last rune, a stream is over at the end of the source, and else
yields a fault. -/
theorem pull_fst_of_eq_length (h : tokens.StandsBehind source taken)
    (hgoing : tokens.halted = false) (hlast : taken = (Utf8.decode source).runes.length) :
    tokens.pull.1 =
      if tokens.isAtEnd then none else some (.error (.malformed tokens.position)) := by
  rw [pull_eq hgoing, h.advance_of_eq_length hlast]
  cases tokens.isAtEnd <;> rfl

end StandsBehind

/-- A call on a tokenizer. -/
inductive Call where
  | peek
  | advance
  | pull
  | skipWhiteSpace
  | skipInlineWhiteSpace
  | truncation
deriving DecidableEq, Repr

/-- What a call answers. -/
inductive Answer where
  | token (found : Except ParseError (Option Token))
  | item (pulled : Option (Except ParseError Token))
  | fault (fault : ParseError)
  /-- Skipping has no answer. -/
  | done

/-- The answer of a call and the tokenizer after it. -/
def Call.run (tokens : Tokenizer) : Call → Answer × Tokenizer
  | peek => (.token tokens.peek, tokens.lookAhead)
  | advance => (.token tokens.advance.1, tokens.advance.2)
  | pull => (.item tokens.pull.1, tokens.pull.2)
  | skipWhiteSpace => (.done, tokens.skipWhiteSpace)
  | skipInlineWhiteSpace => (.done, tokens.skipInlineWhiteSpace)
  | truncation => (.fault tokens.truncation, tokens)

/-- The tokenizer after some calls. -/
def after (tokens : Tokenizer) : List Call → Tokenizer
  | [] => tokens
  | call :: rest => (call.run tokens).2.after rest

/-- What some calls answer. -/
def answers (tokens : Tokenizer) : List Call → List Answer
  | [] => []
  | call :: rest => (call.run tokens).1 :: (call.run tokens).2.answers rest

/-- The tokenizers have taken the same runes, so that they differ at most in what
they have looked at. -/
def Agree (source : ByteArray) (a b : Tokenizer) : Prop :=
  ∃ taken, a.StandsBehind source taken ∧ b.StandsBehind source taken ∧ a.halted = b.halted

namespace Agree

variable {source : ByteArray} {a b : Tokenizer}

theorem position_eq (h : Agree source a b) : a.position = b.position := by
  obtain ⟨taken, ha, hb, -⟩ := h
  rw [ha.position_eq, hb.position_eq]

theorem advance (h : Agree source a b) :
    a.advance.1 = b.advance.1 ∧ Agree source a.advance.2 b.advance.2 := by
  have hposition := h.position_eq
  obtain ⟨taken, ha, hb, hhalted⟩ := h
  cases hrune : (Utf8.decode source).runes[taken]? with
  | some rune =>
      obtain ⟨hfoundA, hafterA, hhaltedA⟩ := ha.advance_of_getElem? hrune
      obtain ⟨hfoundB, hafterB, hhaltedB⟩ := hb.advance_of_getElem? hrune
      refine ⟨by rw [hfoundA, hfoundB, hposition], taken + 1, hafterA, hafterB, ?_⟩
      rw [hhaltedA, hhaltedB, hhalted]
  | none =>
      have hlast := Nat.le_antisymm ha.taken_le (List.getElem?_eq_none_iff.1 hrune)
      have hend : a.isAtEnd = b.isAtEnd := ha.isAtEnd_eq.trans hb.isAtEnd_eq.symm
      rw [ha.advance_of_eq_length hlast, hb.advance_of_eq_length hlast, hend, hposition]
      exact ⟨rfl, taken, ha, hb, hhalted⟩

theorem pull (h : Agree source a b) :
    a.pull.1 = b.pull.1 ∧ Agree source a.pull.2 b.pull.2 := by
  obtain ⟨hfound, hafter⟩ := h.advance
  obtain ⟨taken, ha, hb, hhalted⟩ := h
  cases hgoing : a.halted with
  | true =>
      have hgoingB : b.halted = true := hhalted ▸ hgoing
      rw [Tokenizer.pull, Tokenizer.pull, if_pos hgoing, if_pos hgoingB]
      exact ⟨rfl, taken, ha, hb, hhalted⟩
  | false =>
      rw [pull_eq hgoing, pull_eq (hhalted ▸ hgoing), ← hfound]
      cases a.advance.1 with
      | error fault =>
          obtain ⟨taken', ha', hb', -⟩ := hafter
          exact ⟨rfl, taken', ha'.halt, hb'.halt, rfl⟩
      | ok token? => cases token? <;> exact ⟨rfl, hafter⟩

theorem skipWhile (h : Agree source a b) (test : Char → Bool) :
    Agree source (a.skipWhile test) (b.skipWhile test) := by
  obtain ⟨taken, ha, hb, hhalted⟩ := h
  refine ⟨_, ha.skipWhile test, hb.skipWhile test, ?_⟩
  rw [halted_skipWhile, halted_skipWhile, hhalted]

/-- **Looking does not show.**  Tokenizers that agree answer alike, and agree
afterwards. -/
theorem call (h : Agree source a b) (call : Call) :
    (call.run a).1 = (call.run b).1 ∧ Agree source (call.run a).2 (call.run b).2 := by
  cases call with
  | peek =>
      obtain ⟨taken, ha, hb, hhalted⟩ := h
      refine ⟨?_, taken, ha.lookAhead, hb.lookAhead, ?_⟩
      · exact congrArg Answer.token (ha.peek_eq.trans hb.peek_eq.symm)
      · exact (halted_lookAhead a).trans (hhalted.trans (halted_lookAhead b).symm)
  | advance => exact ⟨congrArg Answer.token h.advance.1, h.advance.2⟩
  | pull => exact ⟨congrArg Answer.item h.pull.1, h.pull.2⟩
  | skipWhiteSpace => exact ⟨rfl, h.skipWhile _⟩
  | skipInlineWhiteSpace => exact ⟨rfl, h.skipWhile _⟩
  | truncation => exact ⟨congrArg (Answer.fault ∘ ParseError.truncated) h.position_eq, h⟩

theorem after (h : Agree source a b) (calls : List Call) :
    Agree source (a.after calls) (b.after calls) := by
  induction calls generalizing a b with
  | nil => exact h
  | cons call rest ih => exact ih (h.call call).2

theorem answers_eq (h : Agree source a b) (calls : List Call) :
    a.answers calls = b.answers calls := by
  induction calls generalizing a b with
  | nil => rfl
  | cons call rest ih =>
      obtain ⟨hanswer, hafter⟩ := h.call call
      rw [Tokenizer.answers, Tokenizer.answers, hanswer, ih hafter]

end Agree

/-- Any calls lead behind some number of the runes. -/
theorem exists_standsBehind_after (source : ByteArray) (calls : List Call) :
    ∃ taken, ((ofBytes source).after calls).StandsBehind source taken := by
  have hstart : Agree source (ofBytes source) (ofBytes source) :=
    ⟨0, standsBehind_ofBytes source, standsBehind_ofBytes source, rfl⟩
  obtain ⟨taken, hafter, -, -⟩ := hstart.after calls
  exact ⟨taken, hafter⟩

/-- A call that only looks leads to a tokenizer that agrees with the one
before. -/
theorem StandsBehind.agree_of_look {tokens : Tokenizer} {source : ByteArray} {taken : Nat}
    (h : tokens.StandsBehind source taken) {look : Call}
    (hlook : look = .peek ∨ look = .truncation) : Agree source (look.run tokens).2 tokens := by
  rcases hlook with rfl | rfl
  · exact ⟨taken, h.lookAhead, h, halted_lookAhead tokens⟩
  · exact ⟨taken, h, h, rfl⟩

/-- What shows of a tokenizer that has taken the first so many of the runes. -/
structure HasTaken (tokens : Tokenizer) (source : ByteArray) (runes : List Char)
    (taken : Nat) : Prop where
  taken_le : taken ≤ runes.length
  byteOffset_eq : tokens.byteOffset = (runes.take taken).utf8Encode.size
  runeOffset_eq : tokens.runeOffset = taken
  line_eq : tokens.line = 1 + (runes.take taken).count '\n'
  /-- The column is no truncated difference. -/
  lineStart_le : tokens.lineStart ≤ tokens.runeOffset
  column_eq : tokens.column = 1 + ((runes.take taken).reverse.takeWhile (· != '\n')).length
  isAtEnd_iff : tokens.isAtEnd = true ↔ tokens.byteOffset = source.size
  of_lookahead : ∀ token, tokens.lookahead = some token → runes[taken]? = some token.rune ∧
    token.position = tokens.position ∧ token.size = token.rune.utf8Size

namespace StandsBehind

variable {tokens : Tokenizer} {source : ByteArray} {taken : Nat}

theorem byteOffset_le_size (h : tokens.StandsBehind source taken) :
    tokens.byteOffset ≤ source.size := by
  have hvalid := (Utf8.isGreatest_validUpTo source).1.1
  rw [Utf8.validUpTo, ← List.take_append_drop taken (Utf8.decode source).runes,
    Utf8.size_append] at hvalid
  rw [h.byteOffset_eq]
  omega

/-- The tokenizer is at the end when all bytes have been taken. -/
theorem isAtEnd_iff (h : tokens.StandsBehind source taken) :
    tokens.isAtEnd = true ↔ tokens.byteOffset = source.size := by
  have hle := h.byteOffset_le_size
  rw [isAtEnd, h.source_eq, decide_eq_true_eq]
  omega

theorem hasTaken (h : tokens.StandsBehind source taken) :
    tokens.HasTaken source (Utf8.decode source).runes taken := by
  have hposition : tokens.position =
      ({} : Position).afterAll ((Utf8.decode source).runes.take taken) := h.position_eq
  refine ⟨h.taken_le, ?_, ?_, ?_, h.lineStart_le, ?_, h.isAtEnd_iff, ?_⟩
  · rw [h.byteOffset_eq, Utf8.size_utf8Encode]
  · have hcount := congrArg Position.runeOffset hposition
    rw [Position.runeOffset_afterAll, List.length_take_of_le h.taken_le] at hcount
    simpa [position] using hcount
  · have hline := congrArg Position.line hposition
    rw [Position.line_afterAll] at hline
    exact hline
  · have hcolumn := congrArg Position.column hposition
    rw [Position.column_afterAll] at hcolumn
    exact hcolumn
  · intro token hkept
    apply h.of_peek
    rw [peek, hkept]

end StandsBehind

/-- **A tokenizer counts runes.**  After any calls, it has taken some number of
the runes of the longest well-formed beginning of its source, and all its
counters are those of that number.  If another rune follows, taking or pulling
yields it and goes one further; behind the last one, both find the end of the
source or malformed bytes, and stay.  Skipping passes the longest run of its
class.  Looking ahead and asking for the truncation fault change nothing that
later calls answer, and nothing of where they lead. -/
theorem calls_count_runes (source : ByteArray) (calls : List Call) :
    IsGreatest {n | n ≤ source.size ∧ (source.extract 0 n).IsValidUTF8}
      (Utf8.validUpTo source) ∧
    ∃ runes : List Char, source.extract 0 (Utf8.validUpTo source) = runes.utf8Encode ∧
    ∃ tokens taken, tokens = (ofBytes source).after calls ∧
      tokens.HasTaken source runes taken ∧
      (∀ rune, runes[taken]? = some rune →
        tokens.advance.1 = .ok (some { rune, position := tokens.position }) ∧
        tokens.advance.2.HasTaken source runes (taken + 1) ∧
        (tokens.halted = false →
          tokens.pull = (some (.ok { rune, position := tokens.position }), tokens.advance.2))) ∧
      (taken = runes.length →
        tokens.advance =
          (if tokens.byteOffset = source.size then .ok none
            else .error (.malformed tokens.position), tokens) ∧
        (tokens.halted = false →
          tokens.pull.1 =
            (if tokens.byteOffset = source.size then none
              else some (.error (.malformed tokens.position))) ∧
          tokens.pull.2.position = tokens.position)) ∧
      tokens.skipWhiteSpace.HasTaken source runes
        (taken + ((runes.drop taken).takeWhile Rune.isWhiteSpace).length) ∧
      tokens.skipInlineWhiteSpace.HasTaken source runes
        (taken + ((runes.drop taken).takeWhile Rune.isInlineWhiteSpace).length) ∧
      (∀ look rest, look = Call.peek ∨ look = Call.truncation →
        (look.run tokens).2.answers rest = tokens.answers rest ∧
        ((look.run tokens).2.after rest).position = (tokens.after rest).position ∧
        ((look.run tokens).2.after rest).halted = (tokens.after rest).halted) := by
  refine ⟨Utf8.isGreatest_validUpTo source, (Utf8.decode source).runes,
    Utf8.extract_validUpTo source, ?_⟩
  obtain ⟨taken, h⟩ := exists_standsBehind_after source calls
  generalize (ofBytes source).after calls = tokens at h
  refine ⟨tokens, taken, rfl, h.hasTaken, ?_, ?_, (h.skipWhile _).hasTaken,
    (h.skipWhile _).hasTaken, ?_⟩
  · intro rune hrune
    obtain ⟨hfound, hafter, -⟩ := h.advance_of_getElem? hrune
    refine ⟨hfound, hafter.hasTaken, ?_⟩
    intro hgoing
    exact h.pull_of_getElem? hgoing hrune
  · intro hlast
    have hadvance := h.advance_of_eq_length hlast
    have hend : (tokens.byteOffset = source.size) = (tokens.isAtEnd = true) :=
      propext h.isAtEnd_iff.symm
    simp only [hend]
    refine ⟨hadvance, ?_⟩
    intro hgoing
    refine ⟨h.pull_fst_of_eq_length hgoing hlast, ?_⟩
    rw [pull_eq hgoing, hadvance]
    cases tokens.isAtEnd <;> rfl
  · intro look rest hlook
    have hagree := h.agree_of_look hlook
    obtain ⟨_, -, -, hhalted⟩ := hagree.after rest
    exact ⟨hagree.answers_eq rest, (hagree.after rest).position_eq, hhalted⟩

end Tokenizer
end SymbolAnnotations
