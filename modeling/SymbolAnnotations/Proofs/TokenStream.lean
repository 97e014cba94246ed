import SymbolAnnotations.Proofs.TokenizerCalls

/-!
# The whole token stream

A tokenizer that is pulled until its stream is over has yielded one token for
each rune of the longest well-formed beginning, and then the fault of the
malformed bytes behind it, if there are any.  The tokens cover their bytes
without a gap: each begins where the one before it ends.

* `Yields` — a stretch of the stream, token by token;
* `exists_yields_ofBytes` — the stream up to the last rune;
* `tokenize_eq` — all tokens of a source, or the fault that ends them;
* `tokens_tile_source` — the tokens against the decoding of all bytes at once.
-/

namespace SymbolAnnotations
namespace Tokenizer

/-- The tokens of runes that start at a position. -/
def tokensAt (position : Position) : List Char → List Token
  | [] => []
  | rune :: rest => { rune, position } :: tokensAt (position.after rune) rest

/-- The sum of the sizes of tokens. -/
def totalSize : List Token → Nat
  | [] => 0
  | token :: more => token.size + totalSize more

theorem map_rune_tokensAt (position : Position) (runes : List Char) :
    (tokensAt position runes).map (·.rune) = runes := by
  induction runes generalizing position with
  | nil => rfl
  | cons rune rest ih => rw [tokensAt, List.map_cons, ih]

/-- Each token takes the bytes of its rune, and begins where those before it
end. -/
theorem place_of_tokensAt_eq {position : Position} {runes : List Char}
    {front back : List Token} {token : Token}
    (h : tokensAt position runes = front ++ token :: back) :
    token.size = token.rune.utf8Size ∧
      token.position.byteOffset = position.byteOffset + totalSize front := by
  induction runes generalizing position front with
  | nil => simp [tokensAt] at h
  | cons rune rest ih =>
      rw [tokensAt] at h
      cases front with
      | nil =>
          obtain ⟨rfl, -⟩ := List.cons.inj h
          exact ⟨rfl, rfl⟩
      | cons first more =>
          obtain ⟨rfl, hrest⟩ := List.cons.inj h
          obtain ⟨hsize, hoffset⟩ := ih hrest
          refine ⟨hsize, ?_⟩
          rw [hoffset, totalSize, Position.after, Nat.add_assoc]

/-- Pulling yields these tokens, one after the other, and leads there. -/
inductive Yields : Tokenizer → List Token → Tokenizer → Prop
  | nil (tokens : Tokenizer) : Yields tokens [] tokens
  | cons {tokens after last : Tokenizer} {token : Token} {more : List Token}
      (hpull : tokens.pull = (some (.ok token), after)) (hmore : Yields after more last) :
      Yields tokens (token :: more) last

variable {tokens last : Tokenizer} {found : List Token} {source : ByteArray} {taken : Nat}

/-- What a stream yields is collected. -/
theorem Yields.collect_eq (h : Yields tokens found last) (earlier : List Token) :
    tokens.collect earlier = last.collect (found.reverse ++ earlier) := by
  induction h generalizing earlier with
  | nil => rfl
  | @cons tokens after last token more hpull hmore ih =>
      have hfirst : tokens.collect earlier = after.collect (token :: earlier) := by
        rw [collect]
        split <;> rename_i hfound <;> rw [hpull] at hfound <;> cases hfound
        rfl
      rw [hfirst, ih, List.reverse_cons, List.append_assoc]
      rfl

/-- What a stream yields is what its pulls answer. -/
theorem Yields.answers_pull (h : Yields tokens found last) (count : Nat) :
    tokens.answers (List.replicate (found.length + count) .pull) =
      found.map (fun token => .item (some (.ok token))) ++
        last.answers (List.replicate count .pull) := by
  induction h with
  | nil => rw [List.length_nil, Nat.zero_add, List.map_nil, List.nil_append]
  | cons hpull hmore ih =>
      rw [List.length_cons, Nat.add_right_comm, List.replicate_succ, answers, Call.run, hpull, ih,
        List.map_cons, List.cons_append]

/-- A stream that is over has yielded what was collected. -/
theorem collect_of_pull_none (h : tokens.pull.1 = none) (earlier : List Token) :
    tokens.collect earlier = .ok earlier.reverse := by
  rw [collect]
  split <;> rename_i hfound <;> rw [hfound] at h <;> cases h

/-- A fault is all that comes of a stream. -/
theorem collect_of_pull_error {fault : ParseError} (h : tokens.pull.1 = some (.error fault))
    (earlier : List Token) : tokens.collect earlier = .error fault := by
  rw [collect]
  split <;> rename_i hfound <;> rw [hfound] at h <;> cases h
  rfl

/-- A stream that is over, and does not move any more, yields nothing. -/
theorem answers_pull_of_over (h : tokens.pull = (none, tokens)) (count : Nat) :
    tokens.answers (List.replicate count .pull) = List.replicate count (.item none) := by
  induction count with
  | zero => rfl
  | succ count ih => rw [List.replicate_succ, answers, Call.run, h, ih, List.replicate_succ]

/-- The stream yields a token for each of the runes ahead. -/
theorem StandsBehind.exists_yields (h : tokens.StandsBehind source taken)
    (hgoing : tokens.halted = false) :
    ∃ last, Yields tokens (tokensAt tokens.position ((Utf8.decode source).runes.drop taken)) last ∧
      last.StandsBehind source (Utf8.decode source).runes.length ∧ last.halted = false := by
  generalize hback : (Utf8.decode source).runes.drop taken = back
  induction back generalizing tokens taken with
  | nil =>
      have hlast : taken = (Utf8.decode source).runes.length :=
        Nat.le_antisymm h.taken_le (List.drop_eq_nil_iff.1 hback)
      exact ⟨tokens, .nil tokens, hlast ▸ h, hgoing⟩
  | cons rune rest ih =>
      have hrune : (Utf8.decode source).runes[taken]? = some rune := by
        rw [← List.head?_drop, hback, List.head?_cons]
      obtain ⟨-, hafter, hhalted⟩ := h.advance_of_getElem? hrune
      have hrest : (Utf8.decode source).runes.drop (taken + 1) = rest := by
        rw [← List.tail_drop, hback, List.tail_cons]
      have hposition : tokens.advance.2.position = tokens.position.after rune := by
        rw [hafter.position_eq, position_cursorBehind_succ hrune, h.position_eq]
      obtain ⟨last, hyields, hstands, hlast⟩ := ih hafter (hhalted.trans hgoing) hrest
      rw [hposition] at hyields
      exact ⟨last, .cons (h.pull_of_getElem? hgoing hrune) hyields, hstands, hlast⟩

/-- From the start, the stream yields a token for each rune of the source. -/
theorem exists_yields_ofBytes (source : ByteArray) :
    ∃ last, Yields (ofBytes source) (tokensAt {} (Utf8.decode source).runes) last ∧
      last.StandsBehind source (Utf8.decode source).runes.length ∧ last.halted = false :=
  (standsBehind_ofBytes source).exists_yields rfl

/-- Behind the last rune, the stream is over at the end of the source. -/
theorem StandsBehind.pull_of_complete
    (h : tokens.StandsBehind source (Utf8.decode source).runes.length)
    (hgoing : tokens.halted = false) (hcomplete : (Utf8.decode source).complete = true) :
    tokens.pull = (none, tokens) := by
  have hend : tokens.isAtEnd = true := by
    rw [h.isAtEnd_eq, Cursor.isAtEnd, runes_cursorBehind, List.drop_length]
    exact hcomplete
  rw [pull_eq hgoing, h.advance_of_eq_length rfl, hend]
  rfl

/-- Behind the last rune, the stream ends with the fault of malformed bytes. -/
theorem StandsBehind.pull_of_incomplete
    (h : tokens.StandsBehind source (Utf8.decode source).runes.length)
    (hgoing : tokens.halted = false) (hincomplete : (Utf8.decode source).complete = false) :
    tokens.pull =
      (some (.error (.malformed (({} : Position).afterAll (Utf8.decode source).runes))),
        { tokens with halted := true }) := by
  have hend : tokens.isAtEnd = false := by
    rw [h.isAtEnd_eq, Cursor.isAtEnd, runes_cursorBehind, List.drop_length]
    exact hincomplete
  have hposition : tokens.position = ({} : Position).afterAll (Utf8.decode source).runes := by
    rw [h.position_eq, cursorBehind, Cursor.advance, Cursor.ofBytes, List.take_length]
  rw [pull_eq hgoing, h.advance_of_eq_length rfl, hend, hposition]
  rfl

/-- **The tokens of a source** are those of its runes, unless malformed bytes
follow these: then the fault there is all that comes of it. -/
theorem tokenize_eq (source : ByteArray) :
    tokenize source =
      if (Utf8.decode source).complete then .ok (tokensAt {} (Utf8.decode source).runes)
      else .error (.malformed (({} : Position).afterAll (Utf8.decode source).runes)) := by
  obtain ⟨last, hyields, hstands, hgoing⟩ := exists_yields_ofBytes source
  have hcollect := hyields.collect_eq []
  rw [List.append_nil] at hcollect
  rw [tokenize, hcollect]
  cases hcomplete : (Utf8.decode source).complete with
  | true =>
      have hpull := hstands.pull_of_complete hgoing hcomplete
      rw [collect_of_pull_none (congrArg Prod.fst hpull), List.reverse_reverse]
      rfl
  | false =>
      have hpull := hstands.pull_of_incomplete hgoing hcomplete
      rw [collect_of_pull_error (congrArg Prod.fst hpull)]
      rfl

/-- Pulling a well-formed source yields its tokens and nothing behind them. -/
theorem answers_pull_of_complete {source : ByteArray}
    (hcomplete : (Utf8.decode source).complete = true) (more : Nat) :
    (ofBytes source).answers
        (List.replicate ((tokensAt {} (Utf8.decode source).runes).length + more) .pull) =
      (tokensAt {} (Utf8.decode source).runes).map (fun token => .item (some (.ok token))) ++
        List.replicate more (.item none) := by
  obtain ⟨last, hyields, hstands, hgoing⟩ := exists_yields_ofBytes source
  rw [hyields.answers_pull, answers_pull_of_over (hstands.pull_of_complete hgoing hcomplete)]

/-- Pulling any other source yields the tokens of its well-formed beginning, the
fault of the malformed bytes once, and nothing behind it. -/
theorem answers_pull_of_incomplete {source : ByteArray}
    (hincomplete : (Utf8.decode source).complete = false) (more : Nat) :
    (ofBytes source).answers
        (List.replicate ((tokensAt {} (Utf8.decode source).runes).length + (more + 1)) .pull) =
      (tokensAt {} (Utf8.decode source).runes).map (fun token => .item (some (.ok token))) ++
        .item (some (.error (.malformed
          (({} : Position).afterAll (Utf8.decode source).runes)))) ::
          List.replicate more (.item none) := by
  obtain ⟨last, hyields, hstands, hgoing⟩ := exists_yields_ofBytes source
  have hover : ({ last with halted := true } : Tokenizer).pull =
      (none, { last with halted := true }) := rfl
  rw [hyields.answers_pull, List.replicate_succ, answers, Call.run,
    hstands.pull_of_incomplete hgoing hincomplete, answers_pull_of_over hover]

/-- **The tokens tile their source.**  Decoding one rune from a window of four
bytes yields what decoding all bytes from there on begins with.  A source has
tokens exactly if it is well-formed.  They are then its runes in order: each
takes the bytes of its encoding and begins where those before it end, together
they are all bytes, and pulling yields them and nothing else.  Pulling any other
source yields the tokens of its longest well-formed beginning and then the fault
of the one byte behind that, which is also all that collecting the tokens
yields. -/
theorem tokens_tile_source (source : ByteArray) :
    (∀ i, Utf8.runeAt? source i = (Utf8.decode (source.extract i source.size)).runes.head?) ∧
    ((∃ tokens, tokenize source = .ok tokens) ↔ source.IsValidUTF8) ∧
    (∀ tokens, tokenize source = .ok tokens →
      ∃ text : String, source = text.toByteArray ∧ tokens.map (·.rune) = text.toList ∧
        (tokens.map (·.rune)).utf8Encode = source ∧
        (∀ front token back, tokens = front ++ token :: back →
          token.size = [token.rune].utf8Encode.size ∧
          token.position.byteOffset = totalSize front) ∧
        ∀ more, (ofBytes source).answers (List.replicate (tokens.length + more) .pull) =
          tokens.map (fun token => .item (some (.ok token))) ++
            List.replicate more (.item none)) ∧
    (¬ source.IsValidUTF8 →
      ∃ validUpTo tokens fault,
        IsGreatest {n | n ≤ source.size ∧ (source.extract 0 n).IsValidUTF8} validUpTo ∧
        tokenize (source.extract 0 validUpTo) = .ok tokens ∧
        fault.kind = .encoding ∧ fault.span = ⟨validUpTo, 1⟩ ∧
        tokenize source = .error fault ∧
        ∀ more, (ofBytes source).answers (List.replicate (tokens.length + (more + 1)) .pull) =
          tokens.map (fun token => .item (some (.ok token))) ++
            .item (some (.error fault)) :: List.replicate more (.item none)) := by
  have htokenize := tokenize_eq source
  refine ⟨?_, ?_, ?_, ?_⟩
  · intro i
    rw [Utf8.runeAt?_eq_utf8DecodeChar?, Utf8.head?_runes_decode,
      ← ByteArray.utf8DecodeChar?_eq_utf8DecodeChar?_extract]
  · rw [htokenize, ← Utf8.complete_decode_iff]
    cases (Utf8.decode source).complete <;> simp
  · intro tokens h
    rw [htokenize] at h
    cases hcomplete : (Utf8.decode source).complete with
    | false =>
        rw [hcomplete] at h
        cases h
    | true =>
        rw [hcomplete] at h
        cases h
        have hbytes := (Utf8.eq_utf8Encode_of_complete hcomplete).symm
        refine ⟨String.ofList (Utf8.decode source).runes, ?_, ?_, ?_, ?_, ?_⟩
        · rw [String.toByteArray_ofList, hbytes]
        · rw [map_rune_tokensAt, String.toList_ofList]
        · rw [map_rune_tokensAt, hbytes]
        · intro front token back hsplit
          obtain ⟨hsize, hoffset⟩ := place_of_tokensAt_eq hsplit
          rw [hsize, hoffset, Utf8.size_utf8Encode]
          exact ⟨rfl, Nat.zero_add _⟩
        · exact answers_pull_of_complete hcomplete
  · intro hinvalid
    have hincomplete : (Utf8.decode source).complete = false := by
      rw [Bool.eq_false_iff]
      exact fun hcomplete => hinvalid (Utf8.complete_decode_iff.1 hcomplete)
    refine ⟨Utf8.validUpTo source, tokensAt {} (Utf8.decode source).runes,
      .malformed (({} : Position).afterAll (Utf8.decode source).runes),
      Utf8.isGreatest_validUpTo source, ?_, rfl, ?_, ?_, ?_⟩
    · rw [Utf8.extract_validUpTo, tokenize_eq, Utf8.decode_utf8Encode, if_pos rfl]
    · rw [ParseError.span, Position.byteOffset_afterAll]
      exact congrArg (Span.mk · 1) (Nat.zero_add _)
    · rw [htokenize, hincomplete]
      rfl
    · exact answers_pull_of_incomplete hincomplete

-- An overlong form, a surrogate, a number that no rune has, and a rune that is cut off.
example :
    ∀ bytes ∈ [#[0xC0, 0x80], #[0xED, 0xA0, 0x80], #[0xF4, 0x90, 0x80, 0x80], #[0xE2, 0x82]],
      Utf8.runeAt? ⟨bytes⟩ 0 = none := by
  decide +kernel

end Tokenizer
end SymbolAnnotations
