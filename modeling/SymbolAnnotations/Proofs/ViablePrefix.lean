import SymbolAnnotations.Proofs.ParseRun
import SymbolAnnotations.Proofs.RuneClasses

/-!
# Faults come as early as possible

Runes that have been taken can always be completed to a source that is parsed,
whatever phase the reading is in and however many blocks are open: the item is
brought to an end, and then the blocks are closed.  So a rune is refused only
where no source goes on, and reading on is never in vain.

* `run_ending` — every phase can be brought between two items;
* `exists_run_eq_ok` — every reading can be brought to an end;
* `fault_ends_viable_prefix` — what stands in front of a fault has a
  continuation that is parsed, and what ends in a refused rune has none.
-/

namespace SymbolAnnotations
namespace Source

/-- Runes that bring an item to its end.  The shortest signature that ends an
identifier as well is a star. -/
def Phase.ending : Phase → List Char
  | .items => []
  | .identifier _ => [Punctuation.star.rune, Punctuation.newline.rune]
  | .receiver => [Punctuation.star.rune, '_', Punctuation.closeParen.rune,
      Punctuation.star.rune, Punctuation.newline.rune]
  | .pointer => ['_', Punctuation.closeParen.rune, Punctuation.star.rune,
      Punctuation.newline.rune]
  | .typeName _ => [Punctuation.closeParen.rune, Punctuation.star.rune,
      Punctuation.newline.rune]
  | .receiverEnd _ => [Punctuation.closeParen.rune, Punctuation.star.rune,
      Punctuation.newline.rune]
  | .definition _ => [Punctuation.star.rune, Punctuation.newline.rune]
  | .signature _ _ _ => [Punctuation.newline.rune]
  | .itemEnd => [Punctuation.newline.rune]

namespace Reading

/-- An item is brought to its end, and no block is opened or closed. -/
theorem run_ending (reading : Reading) (position : Position) :
    ∃ leaves, reading.run position reading.phase.ending =
      .ok ⟨.items, reading.enclosing, leaves⟩ := by
  obtain ⟨phase, enclosing, leaves⟩ := reading
  -- The receiver phases have no identifier yet, and the shortest one is `_`.
  have hscore : Rune.isWhiteSpace '_' = false ∧ Rune.startsIdentifier '_' = true := by
    decide +kernel
  cases phase <;>
    simp [Phase.ending, run, step, atDefinition, atReceiverEnd, atItemEnd, addLeaf,
      Rune.isInlineWhiteSpace, Rune.startsSignature, Rune.isTerminator, closes_scopeAt, hscore]

/-- The open blocks are closed, one brace for each. -/
theorem exists_run_braces (enclosing : List ItemName) (leaves : List Leaf) (phase : Phase)
    (position : Position) (hbetween : phase = .items ∨ phase = .itemEnd) :
    ∃ last, (Reading.mk phase enclosing leaves).run position
        (List.replicate enclosing.length Punctuation.closeBrace.rune) = .ok last ∧
      last.result? = some leaves := by
  induction enclosing generalizing phase position with
  | nil =>
      rcases hbetween with rfl | rfl
      · exact ⟨_, rfl, rfl⟩
      · exact ⟨_, rfl, rfl⟩
  | cons name outer ih =>
      have hstep : (Reading.mk phase (name :: outer) leaves).step Punctuation.closeBrace.rune =
          .ok ⟨.itemEnd, outer, leaves⟩ := by
        rcases hbetween with rfl | rfl <;>
          simp [step, atItems, atItemEnd, Rune.isSeparator, Rune.isInlineWhiteSpace,
            closes_scopeAt]
      obtain ⟨last, hrun, hresult⟩ :=
        ih .itemEnd (position.after Punctuation.closeBrace.rune) (Or.inr rfl)
      refine ⟨last, ?_, hresult⟩
      rw [List.length_cons, List.replicate_succ, run, hstep]
      exact hrun

/-- **Nothing is taken in vain.**  Every reading can be brought to an end. -/
theorem exists_run_eq_ok (reading : Reading) (position : Position) :
    ∃ back last leaves, reading.run position back = .ok last ∧
      last.result? = some leaves := by
  obtain ⟨leaves, hending⟩ := run_ending reading position
  obtain ⟨last, hrun, hresult⟩ := exists_run_braces reading.enclosing leaves .items
    (position.afterAll reading.phase.ending) (Or.inl rfl)
  refine ⟨reading.phase.ending ++
    List.replicate reading.enclosing.length Punctuation.closeBrace.rune, last, leaves, ?_,
    hresult⟩
  rw [run_append, hending, ok_bind, hrun]

end Reading
end Source

namespace Store

open Source

/-- Runes that have been taken are the beginning of a source that is parsed. -/
theorem exists_parse_append_eq_ok {front : List Char} {last : Reading}
    (hrun : ({} : Reading).run {} front = .ok last) :
    ∃ back store, parse (front.utf8Encode ++ back) = .ok store := by
  obtain ⟨back, final, leaves, hback, hresult⟩ :=
    last.exists_run_eq_ok (({} : Position).afterAll front)
  refine ⟨back.utf8Encode, ofLeaves leaves, ?_⟩
  rw [parse_of_run_eq_ok hrun, Utf8.decode_utf8Encode]
  simp only [Reading.outcome, hback, Reading.close, hresult, if_true]
  rfl

/-- The runes in front of a fault of the grammar, which are taken, and the rune
that is refused, with the bytes that they take. -/
theorem exists_of_grammar {source : ByteArray} {error : ParseError}
    (h : parse source = .error error) (hkind : error.kind = .grammar) :
    ∃ front rune last expected, ({} : Reading).run {} front = .ok last ∧
      last.step rune = .error expected ∧
      error = .unexpected { rune, position := ({} : Position).afterAll front } expected ∧
      source.extract 0 error.span.offset = front.utf8Encode ∧
      source.extract 0 (error.span.offset + error.span.length) = (front ++ [rune]).utf8Encode := by
  obtain ⟨front, rune, rest, last, expected, hrunes, hfront, hrefused, rfl⟩ :=
    Reading.exists_of_run_eq_error (run_of_grammar h hkind)
  have hoffset : (({} : Position).afterAll front).byteOffset = Utf8.size front := by
    simp [Position.byteOffset_afterAll]
  have hsize : Utf8.size front + rune.utf8Size = Utf8.size (front ++ [rune]) := by
    simp [Utf8.size_append]
  refine ⟨front, rune, last, expected, hfront, hrefused, rfl, ?_, ?_⟩
  · simp only [ParseError.span, Token.span, hoffset]
    exact Utf8.extract_size_of_runes_eq hrunes
  · simp only [ParseError.span, Token.span, hoffset, hsize]
    exact Utf8.extract_size_of_runes_eq (by simpa using hrunes)

/-- **Faults come as early as possible.**  What ends in a refused rune has the
same fault whatever follows it, and what stands in front of that rune has a
continuation that is parsed.  A truncated source has such a continuation
itself, and a malformed one has it in front of the malformed bytes.  Hence no
beginning of a source that is parsed holds a refused rune. -/
theorem fault_ends_viable_prefix (source : ByteArray) :
    (∀ error, parse source = .error error → error.kind = .grammar →
      (∀ back, parse (source.extract 0 (error.span.offset + error.span.length) ++ back) =
        .error error) ∧
      ∃ back store, parse (source.extract 0 error.span.offset ++ back) = .ok store) ∧
    (∀ error, parse source = .error error → error.kind = .truncation →
      ∃ back store, parse (source ++ back) = .ok store) ∧
    (∀ error, parse source = .error error → error.kind = .encoding →
      ∃ back store, parse (source.extract 0 error.span.offset ++ back) = .ok store) ∧
    (∀ back store, parse (source ++ back) = .ok store →
      ∀ error, parse source = .error error → error.kind ≠ .grammar) := by
  refine ⟨?_, ?_, ?_, ?_⟩
  · intro error h hkind
    obtain ⟨front, rune, last, expected, hfront, hrefused, herror, hbefore, hthrough⟩ :=
      exists_of_grammar h hkind
    rw [hbefore, hthrough, herror]
    constructor
    · intro back
      exact parse_of_run_eq_error (Reading.run_eq_error_of_step hfront hrefused []) back
    · exact exists_parse_append_eq_ok hfront
  · intro error h hkind
    obtain ⟨hcomplete, last, hrun⟩ := run_of_truncation h hkind
    rw [Utf8.eq_utf8Encode_of_complete hcomplete]
    exact exists_parse_append_eq_ok hrun
  · intro error h hkind
    obtain ⟨-, rfl, last, hrun⟩ := run_of_encoding h hkind
    have hoffset : (({} : Position).afterAll (Utf8.decode source).runes).byteOffset =
        Utf8.validUpTo source := by
      simp [Position.byteOffset_afterAll, Utf8.validUpTo]
    simp only [ParseError.span, hoffset, Utf8.extract_validUpTo]
    exact exists_parse_append_eq_ok hrun
  · intro back store hparsed error h hkind
    have hrun := run_of_grammar h hkind
    obtain ⟨tail, hbytes, -, -⟩ := Utf8.eq_utf8Encode_runes_append source
    have hfails := parse_of_run_eq_error hrun (tail ++ back)
    rw [← ByteArray.append_assoc, ← hbytes, hparsed] at hfails
    cases hfails

end Store
end SymbolAnnotations
