import SymbolAnnotations.Proofs.FaultCoordinates
import SymbolAnnotations.Proofs.MalformedPieces
import SymbolAnnotations.Proofs.ShownLines

/-!
# Faults in the shown text

A report looks for a fault in the text that is shown for the source, by offsets
into the bytes of the source itself.  Every malformed piece is shown as three
bytes, whatever its length, and so the two agree up to the first such piece only.
That is enough: no fault lies behind it.

* `toList_lossy_append` — the shown text begins with the runes of the source, and
  malformed bytes behind these show at once;
* `StandsIn.visible` — a fault that stands in a source can be seen in its shown
  text;
* `fault_visible_in_shown_text` — so can every fault that is found, and a report
  puts its label there.
-/

namespace SymbolAnnotations

open Source

namespace Utf8

/-- Runes are shown as they are, whatever follows them. -/
theorem lossyFrom_utf8Encode_append (front : ByteArray) (runes : List Char) (tail : ByteArray)
    (shown : List Char) :
    lossyFrom (front ++ (runes.utf8Encode ++ tail)) front.size shown =
      lossyFrom (front ++ (runes.utf8Encode ++ tail)) (front ++ runes.utf8Encode).size
        (runes.reverse ++ shown) := by
  induction runes generalizing front shown with
  | nil => simp
  | cons rune rest ih =>
      have hrune := rune.utf8Size_pos
      have hinside : front.size < (front ++ ((rune :: rest).utf8Encode ++ tail)).size := by
        simp only [ByteArray.size_append, size_utf8Encode, size_cons]
        omega
      have hnext : (front ++ ((rune :: rest).utf8Encode ++ tail)).utf8DecodeChar? front.size =
          some rune := by
        rw [utf8DecodeChar?_append_size, utf8Encode_cons_append,
          List.utf8DecodeChar?_utf8Encode_singleton_append]
      have hsize : front.size + rune.utf8Size = (front ++ [rune].utf8Encode).size := by
        rw [ByteArray.size_append, size_utf8Encode, size_cons, size_nil, Nat.add_zero]
      have hsplit : front ++ ((rune :: rest).utf8Encode ++ tail) =
          (front ++ [rune].utf8Encode) ++ (rest.utf8Encode ++ tail) := by
        rw [utf8Encode_cons_append, ByteArray.append_assoc]
      have hrest : front ++ (rune :: rest).utf8Encode =
          (front ++ [rune].utf8Encode) ++ rest.utf8Encode := by
        rw [List.utf8Encode_cons, ByteArray.append_assoc]
      rw [lossyFrom, if_pos hinside, hnext]
      simp only
      rw [hsize, hsplit, ih, hrest, List.reverse_cons, List.append_assoc, List.singleton_append]

/-- **The shown text begins with the runes of the source.**  If the source goes
on behind them, the first rune there is U+FFFD. -/
theorem toList_lossy_append (bytes : ByteArray) :
    ∃ more, (lossy bytes).toList = (decode bytes).runes ++ more ∧
      if (decode bytes).complete then more = [] else more.head? = some replacement := by
  obtain ⟨tail, hbytes, htail, hcomplete⟩ := eq_utf8Encode_runes_append bytes
  have hshown := lossyFrom_utf8Encode_append ByteArray.empty (decode bytes).runes tail []
  simp only [ByteArray.empty_append, List.append_nil, ByteArray.size_empty, ← hbytes] at hshown
  rw [lossy, String.toList_ofList, hshown, lossyFrom]
  by_cases hend : tail.size = 0
  · have hsize := congrArg ByteArray.size hbytes
    rw [ByteArray.size_append, hend] at hsize
    refine ⟨[], ?_, by simp [hcomplete, hend]⟩
    rw [if_neg (by omega), List.reverse_reverse, List.append_nil]
  · have hsize := congrArg ByteArray.size hbytes
    rw [ByteArray.size_append] at hsize
    have hnone : bytes.utf8DecodeChar? (decode bytes).runes.utf8Encode.size = none := by
      rw [← runeAt?_eq_utf8DecodeChar?, size_utf8Encode,
        runeAt?_of_runes_eq (List.append_nil _).symm, List.head?_nil]
    rw [if_pos (by omega), hnone]
    obtain ⟨more, hmore, -⟩ := exists_shows_lossyFrom bytes
      ((decode bytes).runes.utf8Encode.size +
        malformedLength bytes (decode bytes).runes.utf8Encode.size)
      (replacement :: (decode bytes).runes.reverse)
    exact ⟨replacement :: more, by simp [hmore], by simp [hcomplete, hend]⟩

end Utf8

/-- The label of a fault is in the report, below a line that holds the place of
the fault. -/
theorem Report.exists_label_mem_rows (name : String) {source : ByteArray} {fault : ParseError}
    {line : Line} (hline : line ∈ excerpt (Utf8.lossy source).toList fault.span)
    (hlength : 0 < fault.span.length) (hoffset : line.offset ≤ fault.span.offset)
    (hwithin : fault.span.offset < line.offset + line.length) :
    ∃ lead, lead ++ "╰── " ++ fault.kind.label ∈ rows name source fault := by
  let lines := excerpt (Utf8.lossy source).toList fault.span
  let margin := (toString ((lines.getLast?.map (·.number)).getD 0)).length
  obtain ⟨lead, hmarks⟩ : ∃ lead, lead ++ "╰── " ++ fault.kind.label ∈
      marks margin line fault.span fault.kind.label :=
    ⟨_, List.mem_cons_of_mem _ (List.mem_singleton_self _)⟩
  have hrows : lead ++ "╰── " ++ fault.kind.label ∈
      lines.flatMap (lineRows margin fault.span fault.kind.label) := by
    refine List.mem_flatMap.2 ⟨line, hline, ?_⟩
    rw [lineRows, if_pos ⟨hlength, hoffset, hwithin⟩]
    exact List.mem_cons_of_mem _ hmarks
  refine ⟨lead, ?_⟩
  rw [rows]
  exact List.mem_append_left _ (List.mem_append_left _ (List.mem_append_right _ hrows))

namespace ParseError

/-- The fault is where it should be in the text that is shown for its source. -/
structure Visible (source : ByteArray) (error : ParseError) : Prop where
  span_le : error.span.offset + error.span.length ≤ (Utf8.lossy source).toByteArray.size
  /-- The fault begins between two runes of the shown text; malformed bytes show
  right there. -/
  between : ∃ front back, (Utf8.lossy source).toList = front ++ back ∧
    Utf8.size front = error.span.offset ∧
    (error.kind = .encoding → back.head? = some Utf8.replacement)
  /-- In front of the fault the shown text has the bytes of the source. -/
  extract_front : (Utf8.lossy source).toByteArray.extract 0 error.span.offset =
    source.extract 0 error.span.offset
  /-- So has it at an unexpected token. -/
  extract_span : error.kind = .grammar →
    (Utf8.lossy source).toByteArray.extract error.span.offset
        (error.span.offset + error.span.length) =
      source.extract error.span.offset (error.span.offset + error.span.length)

variable {source : ByteArray} {error : ParseError}

/-- Runes in front of a fault are those of the shown text. -/
theorem extract_lossy_eq {front back : List Char}
    (hrunes : (Utf8.decode source).runes = front ++ back)
    (hoffset : error.span.offset = Utf8.size front) :
    (Utf8.lossy source).toByteArray.extract 0 error.span.offset =
      source.extract 0 error.span.offset := by
  obtain ⟨more, hshown, -⟩ := Utf8.toList_lossy_append source
  have hdecode : (Utf8.decode (Utf8.lossy source).toByteArray).runes = front ++ (back ++ more) := by
    rw [Utf8.decode_toByteArray, hshown, hrunes, List.append_assoc]
  rw [hoffset, Utf8.extract_size_of_runes_eq hdecode, Utf8.extract_size_of_runes_eq hrunes]

/-- The number of bytes of a shown text. -/
theorem size_lossy (source : ByteArray) :
    (Utf8.lossy source).toByteArray.size = Utf8.size (Utf8.lossy source).toList := by
  rw [← Utf8.size_utf8Encode, String.utf8Encode_toList]

/-- **A fault that stands in a source can be seen** in the text that is shown
for it. -/
theorem StandsIn.visible (h : error.StandsIn source) : error.Visible source := by
  obtain ⟨more, hshown, hmore⟩ := Utf8.toList_lossy_append source
  cases h with
  | @unexpected front back rune expected hrunes =>
      have hoffset : (({} : Position).afterAll front).byteOffset = Utf8.size front := by
        rw [Position.byteOffset_afterAll, Nat.zero_add]
      have hdecode : (Utf8.decode (Utf8.lossy source).toByteArray).runes =
          front ++ ([rune] ++ (back ++ more)) := by
        rw [Utf8.decode_toByteArray, hshown, hrunes]
        simp
      refine ⟨?_, ?_, extract_lossy_eq hrunes hoffset, ?_⟩
      · rw [size_lossy, hshown, hrunes]
        simp only [span, Token.span, hoffset, Utf8.size_append, Utf8.size_cons]
        omega
      · refine ⟨front, rune :: back ++ more, ?_, hoffset.symm, fun hkind => by cases hkind⟩
        rw [hshown, hrunes, List.append_assoc]
      · intro _
        have hbytes := Utf8.extract_of_runes_eq hdecode
        have hsource := @Utf8.extract_of_runes_eq source front [rune] back hrunes
        rw [Utf8.size_cons, Utf8.size_nil, Nat.add_zero] at hbytes hsource
        simp only [span, Token.span, hoffset, hbytes, hsource]
  | truncated hcomplete =>
      have hoffset := byteOffset_afterAll_runes source
      refine ⟨?_, ?_, extract_lossy_eq (List.append_nil _).symm hoffset,
        fun hkind => by cases hkind⟩
      · rw [size_lossy, hshown, Utf8.size_append]
        simp only [span, hoffset, Utf8.validUpTo]
        omega
      · exact ⟨_, more, hshown, hoffset.symm, fun hkind => by cases hkind⟩
  | malformed hincomplete =>
      have hoffset := byteOffset_afterAll_runes source
      rw [hincomplete, if_neg Bool.false_ne_true] at hmore
      refine ⟨?_, ?_, extract_lossy_eq (List.append_nil _).symm hoffset,
        fun hkind => by cases hkind⟩
      · obtain ⟨rest, rfl⟩ := List.head?_eq_some_iff.1 hmore
        have hrune := Utf8.replacement.utf8Size_pos
        rw [size_lossy, hshown, Utf8.size_append, Utf8.size_cons]
        simp only [span, hoffset, Utf8.validUpTo]
        omega
      · exact ⟨_, more, hshown, hoffset.symm, fun _ => hmore⟩

/-- Only the end of a source takes no bytes. -/
theorem StandsIn.length_span_pos (h : error.StandsIn source) (hkind : error.kind ≠ .truncation) :
    0 < error.span.length := by
  cases h with
  | @unexpected front back rune expected hrunes => exact rune.utf8Size_pos
  | truncated => exact absurd rfl hkind
  | malformed => exact Nat.one_pos

/-- **Every fault can be seen** in the text that is shown for its source, with one
U+FFFD for each malformed piece, whether it is found in parsing the source or in
listing its tokens.  A report finds the line with the fault in that text and puts its
label below, except for a fault that is just the end of the source. -/
theorem fault_visible_in_shown_text (source : ByteArray) (error : ParseError)
    (h : Store.parse source = .error error ∨ Tokenizer.tokenize source = .error error) :
    Utf8.Shows source 0 (Utf8.lossy source).toList ∧ error.Visible source ∧
      (error.kind ≠ .truncation →
        (∃ line ∈ Report.excerpt (Utf8.lossy source).toList error.span,
          line.offset ≤ error.span.offset ∧ error.span.offset < line.offset + line.length) ∧
        ∀ name, ∃ lead, lead ++ "╰── " ++ error.kind.label ∈ Report.rows name source error) := by
  have hstands : error.StandsIn source := h.elim standsIn_of_parse standsIn_of_tokenize
  have hvisible := hstands.visible
  refine ⟨Utf8.shows_lossy source, hvisible, ?_⟩
  intro hkind
  have hlength := hstands.length_span_pos hkind
  have hspan := hvisible.span_le
  rw [size_lossy] at hspan
  obtain ⟨line, hline, hoffset, hwithin⟩ := Report.exists_line_of_offset hlength hspan
  exact ⟨⟨line, hline, hoffset, hwithin⟩,
    fun name => Report.exists_label_mem_rows name hline hlength hoffset hwithin⟩

/-- The first of two malformed pieces, of which one is two bytes long and the
other one byte, behind a rune of two bytes. -/
theorem fault_visible_in_malformed_text :
    let source := "é ".toByteArray ++ ⟨#[0xE2, 0x82, 0xFF]⟩
    let error := ParseError.malformed ⟨1, 3, 3, 2⟩
    Store.parse source = .error error ∧ Utf8.lossy source = "é \uFFFD\uFFFD" ∧
      error.Visible source ∧
      ∀ name, ∃ lead, lead ++ "╰── " ++ error.kind.label ∈ Report.rows name source error := by
  intro source error
  have hdecode : Utf8.decode source = ⟨['é', ' '], false⟩ := by
    have htail : (ByteArray.mk #[0xE2, 0x82, 0xFF]).utf8DecodeChar? 0 = none := by decide +kernel
    exact Utf8.decode_utf8Encode_append ['é', ' '] htail
  have hparse : Store.parse source = .error error := by
    have hrun : ({} : Reading).run {} (Utf8.decode source).runes =
        .ok ⟨.definition (.plain "é"), [], []⟩ := by
      rw [hdecode]
      decide +kernel
    rw [Store.parse_eq_close hrun, hdecode]
    rfl
  obtain ⟨-, hvisible, hlabel⟩ := fault_visible_in_shown_text source error (Or.inl hparse)
  refine ⟨hparse, ?_, hvisible, (hlabel (by decide)).2⟩
  decide +kernel

end ParseError
end SymbolAnnotations
