import SymbolAnnotations.Proofs.ParseRun
import SymbolAnnotations.Proofs.TokenStream

/-!
# Where a fault is

Whoever finds a fault, it stands behind the first runes of its source: a refused
rune behind those that have been taken, and the end and malformed bytes behind
all of them.  Its line, its column and its bytes are counted from these runes
and from nothing else.

* `ParseError.StandsIn` — the ways for a fault to stand in a source;
* `standsIn_of_parse`, `standsIn_of_tokenize` — the faults that are found stand
  in their source;
* `fault_coordinates` — what the coordinates of a fault say about its source.
-/

namespace SymbolAnnotations

open Source

namespace ParseError

/-- The fault stands behind the first runes of the source. -/
inductive StandsIn (source : ByteArray) : ParseError → Prop where
  | unexpected {front back : List Char} {rune : Char} {expected : Expectation}
      (hrunes : (Utf8.decode source).runes = front ++ rune :: back) :
      StandsIn source
        (.unexpected { rune, position := ({} : Position).afterAll front } expected)
  | truncated (hcomplete : (Utf8.decode source).complete = true) :
      StandsIn source (.truncated (({} : Position).afterAll (Utf8.decode source).runes))
  | malformed (hmore : (Utf8.decode source).complete = false) :
      StandsIn source (.malformed (({} : Position).afterAll (Utf8.decode source).runes))

variable {source : ByteArray} {error : ParseError}

theorem standsIn_of_parse (h : Store.parse source = .error error) : error.StandsIn source := by
  rcases Store.cases_of_parse_eq_error h with ⟨-, hrun⟩ | ⟨_, -, ⟨hcomplete, rfl⟩ | ⟨hmore, rfl⟩⟩
  · obtain ⟨front, rune, back, last, expected, hrunes, -, -, rfl⟩ :=
      Reading.exists_of_run_eq_error hrun
    exact .unexpected hrunes
  · exact .truncated hcomplete
  · exact .malformed hmore

theorem standsIn_of_tokenize (h : Tokenizer.tokenize source = .error error) :
    error.StandsIn source := by
  rw [Tokenizer.tokenize_eq] at h
  cases hcomplete : (Utf8.decode source).complete with
  | true =>
      rw [hcomplete] at h
      cases h
  | false =>
      rw [hcomplete] at h
      cases h
      exact .malformed hcomplete

/-- The line, the column and the bytes of the fault say where in the source it
is and what is there. -/
structure Coordinates (source : ByteArray) (error : ParseError) : Prop where
  span_le : error.span.offset + error.span.length ≤ source.size
  /-- The bytes in front of the fault are runes; their newlines count lines, and
  those behind the last newline count columns. -/
  counted : ∃ front : List Char, source.extract 0 error.span.offset = front.utf8Encode ∧
    error.line = 1 + front.count '\n' ∧
    error.column = 1 + (front.reverse.takeWhile (· != '\n')).length
  /-- The bytes of an unexpected token are those of its rune. -/
  of_unexpected : ∀ found expected, error = .unexpected found expected →
    source.extract error.span.offset (error.span.offset + error.span.length) =
      [found.rune].utf8Encode
  of_truncation : error.kind = .truncation →
    error.span.offset = source.size ∧ error.span.length = 0
  /-- No longer beginning of the source is well-formed. -/
  of_encoding : error.kind = .encoding →
    error.span.length = 1 ∧ ∀ n ≤ source.size, error.span.offset < n →
      ¬ (source.extract 0 n).IsValidUTF8

/-- A place behind the first runes of a source is counted from these. -/
theorem counted_of_position {front back : List Char}
    (hrunes : (Utf8.decode source).runes = front ++ back)
    (hoffset : error.span.offset = error.position.byteOffset)
    (hposition : error.position = ({} : Position).afterAll front) :
    ∃ front : List Char, source.extract 0 error.span.offset = front.utf8Encode ∧
      error.line = 1 + front.count '\n' ∧
      error.column = 1 + (front.reverse.takeWhile (· != '\n')).length := by
  refine ⟨front, ?_, ?_, ?_⟩
  · rw [hoffset, hposition, Position.byteOffset_afterAll, Nat.zero_add]
    exact Utf8.extract_size_of_runes_eq hrunes
  · rw [line, hposition, Position.line_afterAll]
  · rw [column, hposition, Position.column_afterAll]

/-- A refused rune. -/
theorem coordinates_unexpected {front back : List Char} {rune : Char} {expected : Expectation}
    (hrunes : (Utf8.decode source).runes = front ++ rune :: back) :
    (ParseError.unexpected { rune, position := ({} : Position).afterAll front }
      expected).Coordinates source := by
  have hoffset : (({} : Position).afterAll front).byteOffset = Utf8.size front := by
    rw [Position.byteOffset_afterAll, Nat.zero_add]
  refine ⟨?_, counted_of_position hrunes rfl rfl, ?_, ?_, ?_⟩
  · have hvalid := (Utf8.isGreatest_validUpTo source).1.1
    rw [Utf8.validUpTo, hrunes, Utf8.size_append, Utf8.size_cons] at hvalid
    simp only [span, Token.span, hoffset]
    omega
  · intro found expected' heq
    cases heq
    simp only [span, Token.span, hoffset]
    have hbytes := @Utf8.extract_of_runes_eq source front [rune] back hrunes
    rwa [Utf8.size_cons, Utf8.size_nil, Nat.add_zero] at hbytes
  · intro hkind
    cases hkind
  · intro hkind
    cases hkind

/-- A place behind all runes of the source is that of the end of its well-formed
beginning. -/
theorem byteOffset_afterAll_runes (source : ByteArray) :
    (({} : Position).afterAll (Utf8.decode source).runes).byteOffset =
      Utf8.validUpTo source := by
  rw [Position.byteOffset_afterAll, Nat.zero_add, Utf8.validUpTo]

/-- The end of the source. -/
theorem coordinates_truncated (hcomplete : (Utf8.decode source).complete = true) :
    (ParseError.truncated
      (({} : Position).afterAll (Utf8.decode source).runes)).Coordinates source := by
  have hoffset := byteOffset_afterAll_runes source
  rw [Utf8.complete_decode_iff_validUpTo.1 hcomplete] at hoffset
  refine ⟨?_, counted_of_position (List.append_nil _).symm rfl rfl, ?_, ?_, ?_⟩
  · simp only [span, hoffset, Nat.add_zero, Nat.le_refl]
  · intro found expected heq
    cases heq
  · intro hkind
    exact ⟨hoffset, rfl⟩
  · intro hkind
    cases hkind

/-- Malformed bytes. -/
theorem coordinates_malformed (hmore : (Utf8.decode source).complete = false) :
    (ParseError.malformed
      (({} : Position).afterAll (Utf8.decode source).runes)).Coordinates source := by
  have hoffset := byteOffset_afterAll_runes source
  obtain ⟨⟨hle, -⟩, hgreatest⟩ := Utf8.isGreatest_validUpTo source
  refine ⟨?_, counted_of_position (List.append_nil _).symm rfl rfl, ?_, ?_, ?_⟩
  · have hne : Utf8.validUpTo source ≠ source.size := by
      intro heq
      rw [Utf8.complete_decode_iff_validUpTo.2 heq] at hmore
      cases hmore
    simp only [span, hoffset]
    omega
  · intro found expected heq
    cases heq
  · intro hkind
    cases hkind
  · intro _
    refine ⟨rfl, ?_⟩
    intro n hn hlonger hvalid
    have hupper := hgreatest ⟨hn, hvalid⟩
    simp only [span, hoffset] at hlonger
    omega

theorem StandsIn.coordinates (h : error.StandsIn source) : error.Coordinates source := by
  cases h with
  | unexpected hrunes => exact coordinates_unexpected hrunes
  | truncated hcomplete => exact coordinates_truncated hcomplete
  | malformed hmore => exact coordinates_malformed hmore

/-- **The coordinates of a fault are exact,** whether it is found in parsing a
source or in listing its tokens. -/
theorem fault_coordinates (source : ByteArray) (error : ParseError)
    (h : Store.parse source = .error error ∨ Tokenizer.tokenize source = .error error) :
    error.Coordinates source := by
  rcases h with h | h
  · exact (standsIn_of_parse h).coordinates
  · exact (standsIn_of_tokenize h).coordinates

/-- A fault on the second line, behind a rune of two bytes. -/
theorem fault_coordinates_multibyte :
    Store.parse "T x\né ;".toByteArray =
      .error (.unexpected { rune := ';', position := ⟨2, 3, 7, 6⟩ } .signature) ∧
    (ParseError.unexpected { rune := ';', position := ⟨2, 3, 7, 6⟩ } .signature).Coordinates
      "T x\né ;".toByteArray := by
  have hparse : Store.parse "T x\né ;".toByteArray =
      .error (.unexpected { rune := ';', position := ⟨2, 3, 7, 6⟩ } .signature) := by
    apply Store.parse_eq_error
    rw [Utf8.decode_toByteArray]
    decide +kernel
  exact ⟨hparse, fault_coordinates _ _ (Or.inl hparse)⟩

end ParseError
end SymbolAnnotations
