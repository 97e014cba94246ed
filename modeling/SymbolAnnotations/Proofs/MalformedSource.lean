import SymbolAnnotations.Proofs.ParseRun

/-!
# Malformed sources

A source that is not well-formed is read like its longest well-formed
beginning.  A fault of the grammar in that beginning is the fault of the whole
source; otherwise reading gets to the end of the beginning, and what would have
been a store or a truncated item there is now the malformed byte behind it.

* `parse_meets_malformed_bytes_last` — the source and its longest well-formed
  beginning.
-/

namespace SymbolAnnotations
namespace Store

open Source

/-- **Malformed bytes are met last.**  A well-formed source is never at fault
for its bytes.  Any other source has the fault of the grammar that its longest
well-formed beginning has; if that has none, the byte behind it is at fault, at
the line and the column where the beginning ends.  Hence what is parsed is
well-formed to its last byte. -/
theorem parse_meets_malformed_bytes_last (source : ByteArray) :
    IsGreatest {n | n ≤ source.size ∧ (source.extract 0 n).IsValidUTF8}
      (Utf8.validUpTo source) ∧
    (source.IsValidUTF8 → ∀ error, parse source = .error error → error.kind ≠ .encoding) ∧
    (¬ source.IsValidUTF8 →
      ∃ beginning : String, source.extract 0 (Utf8.validUpTo source) = beginning.toByteArray ∧
        (∀ error, parse beginning.toByteArray = .error error → error.kind = .grammar →
          parse source = .error error) ∧
        ((∀ error, parse beginning.toByteArray = .error error → error.kind ≠ .grammar) →
          ∃ error, parse source = .error error ∧ error.kind = .encoding ∧
            error.span = ⟨Utf8.validUpTo source, 1⟩ ∧
            error.line = 1 + beginning.toList.count '\n' ∧
            error.column = 1 + (beginning.toList.reverse.takeWhile (· != '\n')).length)) ∧
    (∀ store, parse source = .ok store → source.IsValidUTF8) := by
  refine ⟨Utf8.isGreatest_validUpTo source, ?_, ?_, ?_⟩
  · intro hvalid error h hkind
    have hcomplete := Utf8.complete_decode_iff.2 hvalid
    rw [(run_of_encoding h hkind).1] at hcomplete
    cases hcomplete
  · intro hinvalid
    have hincomplete : (Utf8.decode source).complete = false := by
      rw [Bool.eq_false_iff]
      exact fun hcomplete => hinvalid (Utf8.complete_decode_iff.1 hcomplete)
    have hbeginning : (Utf8.decode (String.ofList (Utf8.decode source).runes).toByteArray).runes =
        (Utf8.decode source).runes := by
      rw [Utf8.decode_toByteArray, String.toList_ofList]
    refine ⟨String.ofList (Utf8.decode source).runes, ?_, ?_, ?_⟩
    · rw [Utf8.extract_validUpTo, String.toByteArray_ofList]
    · intro error h hkind
      have hrun := run_of_grammar h hkind
      rw [hbeginning] at hrun
      exact parse_eq_error hrun
    · intro hother
      cases hrun : ({} : Reading).run {} (Utf8.decode source).runes with
      | error fault =>
          obtain ⟨_, _, _, _, _, -, -, -, rfl⟩ := Reading.exists_of_run_eq_error hrun
          exact absurd rfl (hother _ (parse_eq_error (by rw [hbeginning]; exact hrun)))
      | ok last =>
          refine ⟨.malformed (({} : Position).afterAll (Utf8.decode source).runes), ?_, rfl,
            ?_, ?_, ?_⟩
          · rw [parse_eq_close hrun, hincomplete]
            rfl
          · simp [ParseError.span, Position.byteOffset_afterAll, Utf8.validUpTo]
          · simp [ParseError.line, ParseError.position, Position.line_afterAll]
          · simp [ParseError.column, ParseError.position, Position.column_afterAll]
  · intro store h
    exact Utf8.complete_decode_iff.1 (complete_of_parse_eq_ok h)

end Store
end SymbolAnnotations
