import SymbolAnnotations.Proofs.ReadingAgreement
import SymbolAnnotations.Proofs.ValidPrefix
import SymbolAnnotations.Store

/-!
# Parsing as a run

A source is parsed by running a reading over its runes.  A rune is refused or
not by what stands in front of it alone, and so the beginning of a source fixes
either the fault or the reading that goes on with the rest, whatever bytes the
rest consists of.

* `outcome_append` — a reading goes on behind the runes it has taken;
* `exists_of_run_eq_error` — a refused rune, and the reading that refuses it;
* `leaves_of_run` — the leaves of a source whose runes are all taken;
* `parse_eq_close`, `parse_eq_error` — what the run over all runes says about
  the store;
* `run_of_parse_eq_ok` — the run over a source that is parsed;
* `cases_of_parse_eq_error` — the ways to fail, and for each kind of fault
  `run_of_grammar`, `run_of_truncation`, `run_of_encoding`;
* `parse_of_run_eq_ok`, `parse_of_run_eq_error` — what the run over the first
  runes says.
-/

namespace SymbolAnnotations
namespace Source
namespace Reading

/-- A reading goes on behind the runes that it has taken. -/
theorem outcome_append (reading : Reading) (front back : List Char) (complete : Bool)
    (position : Position) :
    reading.outcome ⟨front ++ back, complete, position⟩ =
      (reading.run position front >>= fun last =>
        last.outcome ⟨back, complete, position.afterAll front⟩) := by
  simp only [outcome, run_append, Position.afterAll_append]
  cases reading.run position front <;> rfl

/-- **A refused rune.**  The runes in front of it are taken, and it is refused
by the reading that they lead to. -/
theorem exists_of_run_eq_error {reading : Reading} {position : Position} {runes : List Char}
    {fault : ParseError} (h : reading.run position runes = .error fault) :
    ∃ front rune back last expected, runes = front ++ rune :: back ∧
      reading.run position front = .ok last ∧ last.step rune = .error expected ∧
      fault = .unexpected { rune, position := position.afterAll front } expected := by
  induction runes generalizing reading position with
  | nil => cases h
  | cons rune rest ih =>
      rw [run] at h
      cases hstep : reading.step rune with
      | error expected =>
          rw [hstep] at h
          cases h
          exact ⟨[], rune, rest, reading, expected, rfl, rfl, hstep, rfl⟩
      | ok next =>
          rw [hstep] at h
          obtain ⟨front, found, back, last, expected, rfl, hrun, hrefused, rfl⟩ := ih h
          refine ⟨rune :: front, found, back, last, expected, rfl, ?_, hrefused, rfl⟩
          rw [run, hstep]
          exact hrun

-- No item does without a definition.
example : ({} : Reading).run {} ['T', ' ', ';'] =
    .error (.unexpected { rune := ';', position := ⟨1, 3, 2, 2⟩ } .signature) := by
  decide +kernel

/-- A rune that is refused once is refused whatever follows it. -/
theorem run_eq_error_of_step {reading last : Reading} {position : Position}
    {front : List Char} {rune : Char} {expected : Expectation}
    (hrun : reading.run position front = .ok last)
    (hrefused : last.step rune = .error expected) (back : List Char) :
    reading.run position (front ++ rune :: back) =
      .error (.unexpected { rune, position := position.afterAll front } expected) := by
  rw [run_append, hrun, ok_bind, run, hrefused]

end Reading

/-- The leaves of a source whose runes are all taken. -/
theorem leaves_of_run {source : ByteArray} {last : Reading} {found : List Leaf}
    (hcomplete : (Utf8.decode source).complete = true)
    (hrun : ({} : Reading).run {} (Utf8.decode source).runes = .ok last)
    (hresult : last.result? = some found) : leaves source = .ok found := by
  rw [leaves, leavesFrom_eq_outcome, Cursor.ofBytes, Reading.outcome, hrun]
  simp only [Reading.close, hcomplete, hresult, if_true]

/-- The leaves of a text. -/
theorem leaves_toByteArray_of_run {text : String} {last : Reading} {found : List Leaf}
    (hrun : ({} : Reading).run {} text.toList = .ok last) (hresult : last.result? = some found) :
    leaves text.toByteArray = .ok found := by
  refine leaves_of_run ?_ ?_ hresult
  · rw [Utf8.decode_toByteArray]
  · rw [Utf8.decode_toByteArray]
    exact hrun

end Source

namespace Store

open Source

/-- A source whose runes are all taken is at fault only in how it ends. -/
theorem parse_eq_close {source : ByteArray} {last : Reading}
    (hrun : ({} : Reading).run {} (Utf8.decode source).runes = .ok last) :
    parse source = (last.close (Utf8.decode source).complete
      (({} : Position).afterAll (Utf8.decode source).runes)).map ofLeaves := by
  rw [parse, readFrom, leavesFrom_eq_outcome, Cursor.ofBytes, Reading.outcome, hrun]

/-- A source with a rune that is refused is at fault there. -/
theorem parse_eq_error {source : ByteArray} {fault : ParseError}
    (hrun : ({} : Reading).run {} (Utf8.decode source).runes = .error fault) :
    parse source = .error fault := by
  rw [parse, readFrom, leavesFrom_eq_outcome, Cursor.ofBytes, Reading.outcome, hrun]
  rfl

/-- **The ways to fail.**  A source fails at a rune that is refused or, when all
its runes are taken, at its end: there it is truncated, or malformed bytes
follow. -/
theorem cases_of_parse_eq_error {source : ByteArray} {error : ParseError}
    (h : parse source = .error error) :
    (error.kind = .grammar ∧
      ({} : Reading).run {} (Utf8.decode source).runes = .error error) ∨
    ∃ last, ({} : Reading).run {} (Utf8.decode source).runes = .ok last ∧
      (((Utf8.decode source).complete = true ∧
          error = .truncated (({} : Position).afterAll (Utf8.decode source).runes)) ∨
        ((Utf8.decode source).complete = false ∧
          error = .malformed (({} : Position).afterAll (Utf8.decode source).runes))) := by
  cases hrun : ({} : Reading).run {} (Utf8.decode source).runes with
  | error fault =>
      rw [parse_eq_error hrun] at h
      cases h
      obtain ⟨_, _, _, _, _, -, -, -, rfl⟩ := Reading.exists_of_run_eq_error hrun
      exact Or.inl ⟨rfl, rfl⟩
  | ok last =>
      rw [parse_eq_close hrun] at h
      refine Or.inr ⟨last, rfl, ?_⟩
      cases hcomplete : (Utf8.decode source).complete with
      | false =>
          rw [hcomplete] at h
          cases h
          exact Or.inr ⟨rfl, rfl⟩
      | true =>
          rw [hcomplete, Reading.close, if_pos rfl] at h
          cases hresult : last.result? with
          | none =>
              rw [hresult] at h
              cases h
              exact Or.inl ⟨rfl, rfl⟩
          | some leaves =>
              rw [hresult] at h
              cases h

/-- A fault of the grammar is a rune that the run refuses. -/
theorem run_of_grammar {source : ByteArray} {error : ParseError}
    (h : parse source = .error error) (hkind : error.kind = .grammar) :
    ({} : Reading).run {} (Utf8.decode source).runes = .error error := by
  rcases cases_of_parse_eq_error h with ⟨-, hrun⟩ | ⟨last, -, ⟨-, rfl⟩ | ⟨-, rfl⟩⟩
  · exact hrun
  · cases hkind
  · cases hkind

/-- A truncated source has all its runes taken. -/
theorem run_of_truncation {source : ByteArray} {error : ParseError}
    (h : parse source = .error error) (hkind : error.kind = .truncation) :
    (Utf8.decode source).complete = true ∧
      ∃ last, ({} : Reading).run {} (Utf8.decode source).runes = .ok last := by
  rcases cases_of_parse_eq_error h with ⟨hgrammar, -⟩ | ⟨last, hrun, ⟨hcomplete, -⟩ | ⟨-, rfl⟩⟩
  · cases hgrammar.symm.trans hkind
  · exact ⟨hcomplete, last, hrun⟩
  · cases hkind

/-- Malformed bytes are at fault behind all runes, and these are taken. -/
theorem run_of_encoding {source : ByteArray} {error : ParseError}
    (h : parse source = .error error) (hkind : error.kind = .encoding) :
    (Utf8.decode source).complete = false ∧
      error = .malformed (({} : Position).afterAll (Utf8.decode source).runes) ∧
      ∃ last, ({} : Reading).run {} (Utf8.decode source).runes = .ok last := by
  rcases cases_of_parse_eq_error h with ⟨hgrammar, -⟩ | ⟨last, hrun, ⟨-, rfl⟩ | ⟨hmore, rfl⟩⟩
  · cases hgrammar.symm.trans hkind
  · cases hkind
  · exact ⟨hmore, rfl, last, hrun⟩

/-- A source that is parsed is well-formed to its end. -/
theorem complete_of_parse_eq_ok {source : ByteArray} {store : Store}
    (h : parse source = .ok store) : (Utf8.decode source).complete = true := by
  cases hrun : ({} : Reading).run {} (Utf8.decode source).runes with
  | error fault =>
      rw [parse_eq_error hrun] at h
      cases h
  | ok last =>
      rw [parse_eq_close hrun] at h
      cases hcomplete : (Utf8.decode source).complete with
      | true => rfl
      | false =>
          rw [hcomplete] at h
          cases h

/-- A source that is parsed has all its runes taken, and its leaves are those of
the reading that they lead to. -/
theorem run_of_parse_eq_ok {source : ByteArray} {store : Store} (h : parse source = .ok store) :
    ∃ last leaves, ({} : Reading).run {} (Utf8.decode source).runes = .ok last ∧
      last.result? = some leaves ∧ ofLeaves leaves = store := by
  have hcomplete := complete_of_parse_eq_ok h
  cases hrun : ({} : Reading).run {} (Utf8.decode source).runes with
  | error fault =>
      rw [parse_eq_error hrun] at h
      cases h
  | ok last =>
      rw [parse_eq_close hrun, hcomplete, Reading.close, if_pos rfl] at h
      cases hresult : last.result? with
      | none =>
          rw [hresult] at h
          cases h
      | some leaves =>
          rw [hresult] at h
          cases h
          exact ⟨last, leaves, rfl, hresult, rfl⟩

/-- The store of a source whose beginning has been taken is what the reading
makes of the rest. -/
theorem parse_of_run_eq_ok {front : List Char} {last : Reading}
    (hrun : ({} : Reading).run {} front = .ok last) (bytes : ByteArray) :
    parse (front.utf8Encode ++ bytes) =
      (last.outcome ⟨(Utf8.decode bytes).runes, (Utf8.decode bytes).complete,
        ({} : Position).afterAll front⟩).map ofLeaves := by
  rw [parse, readFrom, leavesFrom_eq_outcome, Cursor.ofBytes,
    Utf8.decode_utf8Encode_append_bytes, Reading.outcome_append, hrun, ok_bind]

/-- The beginning of a source may already hold the fault of all of it. -/
theorem parse_of_run_eq_error {front : List Char} {fault : ParseError}
    (hrun : ({} : Reading).run {} front = .error fault) (bytes : ByteArray) :
    parse (front.utf8Encode ++ bytes) = .error fault := by
  rw [parse, readFrom, leavesFrom_eq_outcome, Cursor.ofBytes,
    Utf8.decode_utf8Encode_append_bytes, Reading.outcome_append, hrun, error_bind]
  rfl

end Store
end SymbolAnnotations
