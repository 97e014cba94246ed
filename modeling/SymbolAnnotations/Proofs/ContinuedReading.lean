import SymbolAnnotations.Proofs.Displacement
import SymbolAnnotations.Proofs.FaultCoordinates
import SymbolAnnotations.Proofs.TokenReading

/-!
# Reading on behind a tokenizer

A parser can be built from a tokenizer that has been used.  What counts is how many
runes it has taken: the token that it keeps is the next one in any case, and what it
has yielded as a stream does not matter.  So parsing goes on with the bytes from where
the tokenizer stands, and its faults are those of these bytes by themselves, moved along
by its place.

* `StandsBehind.cursor_eq` — the bytes ahead of a tokenizer are what is ahead behind
  the runes that it has taken;
* `parse_continued` — reading on is parsing the rest.
-/

namespace SymbolAnnotations
namespace Tokenizer

/-- The runes that have been taken, and the bytes ahead. -/
theorem StandsBehind.eq_append_extract {tokens : Tokenizer} {source : ByteArray} {taken : Nat}
    (h : tokens.StandsBehind source taken) :
    source = ((Utf8.decode source).runes.take taken).utf8Encode ++
      source.extract tokens.byteOffset source.size := by
  obtain ⟨tail, hbytes, -, -⟩ := Utf8.eq_utf8Encode_runes_append source
  rw [← List.take_append_drop taken (Utf8.decode source).runes, List.utf8Encode_append,
    ByteArray.append_assoc] at hbytes
  have hsize := congrArg ByteArray.size hbytes
  rw [ByteArray.size_append] at hsize
  have hrest := ByteArray.extract_append_eq_right
    (h.byteOffset_eq.trans (Utf8.size_utf8Encode _).symm) hsize
  rw [← hbytes] at hrest
  rw [hrest]
  exact hbytes

/-- The bytes ahead hold the runes that have not been taken. -/
theorem StandsBehind.cursor_eq {tokens : Tokenizer} {source : ByteArray} {taken : Nat}
    (h : tokens.StandsBehind source taken) : tokens.cursor = cursorBehind source taken := by
  have hdecode := congrArg Utf8.decode h.eq_append_extract
  rw [Utf8.decode_utf8Encode_append_bytes] at hdecode
  have hcomplete := congrArg Utf8.Decoding.complete hdecode
  have hrunes := congrArg (List.drop taken ∘ Utf8.Decoding.runes) hdecode
  simp only [Function.comp_apply] at hrunes
  rw [List.drop_left' (List.length_take_of_le h.taken_le)] at hrunes
  rw [cursor, h.source_eq, h.position_eq, ← hrunes, ← hcomplete]
  rfl

end Tokenizer

namespace Store

/-- What is ahead of a tokenizer is read like a source of its own, and moved along. -/
theorem readFrom_cursor_eq (tokens : Tokenizer) :
    readFrom tokens.cursor =
      (parse (tokens.source.extract tokens.byteOffset tokens.source.size)).mapError
        (ParseError.behind tokens.position) := by
  rw [parse, readFrom, readFrom, Source.leavesFrom_eq_outcome, Source.leavesFrom_eq_outcome,
    Tokenizer.cursor, Source.Reading.outcome_behind, Cursor.ofBytes]
  cases ({} : Source.Reading).outcome _ <;> rfl

/-- **Reading on is parsing the rest.**  After any calls on a tokenizer, looking ahead
and a stream that has ended included, a parser that is built from it comes to an end,
and so does one over the rest of the source by itself, which is parsing it.  Both yield
the same store; and their faults are the same, except that the first one's are as many
bytes further on, as many lines further down and, on the first line of the rest, as many
columns to the right as the tokenizer is from the start. -/
theorem parse_continued (source : ByteArray) (calls : List Tokenizer.Call) :
    ∃ tokens rest, tokens = (Tokenizer.ofBytes source).after calls ∧
      rest = source.extract tokens.byteOffset source.size ∧
      readOn tokens = some (readFrom tokens.cursor) ∧
      readOn (.ofBytes rest) = some (parse rest) ∧
      (∀ store, readOn tokens = some (.ok store) ↔ parse rest = .ok store) ∧
      ∀ error, parse rest = .error error →
        ∃ found, readOn tokens = some (.error found) ∧ found.cause = error.cause ∧
          found.span.offset = error.span.offset + tokens.byteOffset ∧
          found.span.length = error.span.length ∧
          found.line = error.line + (tokens.line - 1) ∧
          found.column =
            if error.line = 1 then error.column + (tokens.column - 1) else error.column := by
  obtain ⟨taken, h⟩ := Tokenizer.exists_standsBehind_after source calls
  generalize (Tokenizer.ofBytes source).after calls = tokens at h
  have hreads : readOn tokens = some (readFrom tokens.cursor) := by
    rw [h.cursor_eq, readOn_eq_readFrom h]
  have hmoved := readFrom_cursor_eq tokens
  rw [h.source_eq] at hmoved
  refine ⟨tokens, _, rfl, rfl, hreads, readOn_ofBytes _, ?_, ?_⟩
  · intro store
    rw [hreads, hmoved]
    cases parse (source.extract tokens.byteOffset source.size) <;> simp [Except.mapError]
  · intro error herror
    rw [herror] at hmoved
    rw [hmoved] at hreads
    refine ⟨_, hreads, error.cause_behind _, ?_, error.length_behind _, ?_, ?_⟩
    · rw [ParseError.offset_behind, Nat.add_comm]
      rfl
    all_goals
      -- Lines and columns count from one, on either side.
      obtain ⟨front, -, hline, hcolumn⟩ :=
        (ParseError.fault_coordinates _ error (Or.inl herror)).counted
      have hline' := h.hasTaken.line_eq
      have hcolumn' := h.hasTaken.column_eq
    · rw [ParseError.line_behind]
      simp only [Tokenizer.position]
      omega
    · rw [ParseError.column_behind]
      simp only [Tokenizer.position]
      split <;> omega

end Store
end SymbolAnnotations
