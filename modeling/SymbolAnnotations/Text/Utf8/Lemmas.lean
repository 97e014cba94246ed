import SymbolAnnotations.Text.Utf8

/-!
# What decoding yields

Every byte string is the encoding of some runes with a tail behind it that
begins with no rune, and in only one way.  `decode` finds it.

* `eq_utf8Encode_runes_append` — the decoded runes, encoded again, are the
  beginning of the bytes, and no rune follows them;
* `decode_utf8Encode_append` — runes with such a tail behind them are decoded
  to these runes;
* `complete_decode_iff`, `text?_eq_some_iff` — a decoding is complete exactly
  for well-formed bytes, and then it is the text that they encode;
* `lossy_toByteArray` — a text is shown as it is;
* `runeAt?_eq_utf8DecodeChar?` — four bytes are enough to decode one rune;
* `decode_append_of_incomplete` — runes behind malformed bytes do not mend them.
-/

namespace SymbolAnnotations
namespace Utf8

/-- What stands behind some bytes reads as it does on its own. -/
theorem utf8DecodeChar?_append_size (front back : ByteArray) :
    (front ++ back).utf8DecodeChar? front.size = back.utf8DecodeChar? 0 := by
  rw [ByteArray.utf8DecodeChar?_eq_utf8DecodeChar?_extract,
    ByteArray.extract_append_eq_right rfl ByteArray.size_append]

theorem utf8Encode_cons_append (rune : Char) (rest : List Char) (tail : ByteArray) :
    (rune :: rest).utf8Encode ++ tail = [rune].utf8Encode ++ (rest.utf8Encode ++ tail) := by
  rw [← List.singleton_append, List.utf8Encode_append, ByteArray.append_assoc]

/-- Reading on from a place stops at a tail that begins with no rune, and what
lies between encodes the runes that were read. -/
theorem exists_decodeFrom (bytes : ByteArray) (i : Nat) (read : List Char)
    (hi : i ≤ bytes.size) :
    ∃ runes tail, bytes.extract i bytes.size = runes.utf8Encode ++ tail ∧
      tail.utf8DecodeChar? 0 = none ∧
      decodeFrom bytes i read = ⟨read.reverse ++ runes, tail.size = 0⟩ := by
  fun_induction decodeFrom bytes i read with
  | case1 i read rune h ih =>
    have hle := ByteArray.le_size_of_utf8DecodeChar?_eq_some h
    obtain ⟨runes, tail, hbytes, htail, hread⟩ := ih hle
    refine ⟨rune :: runes, tail, ?_, htail, ?_⟩
    · have hend : min (i + (bytes.extract i bytes.size).size) bytes.size = bytes.size := by
        rw [ByteArray.size_extract]
        omega
      rw [ByteArray.utf8DecodeChar?_eq_utf8DecodeChar?_extract] at h
      rw [ByteArray.eq_of_utf8DecodeChar?_eq_some h, utf8Encode_cons_append, ← hbytes,
        List.utf8Encode_singleton, ByteArray.extract_extract, hend]
    · simpa using hread
  | case2 i read h =>
    refine ⟨[], bytes.extract i bytes.size, by simp, ?_, ?_⟩
    · rwa [← ByteArray.utf8DecodeChar?_eq_utf8DecodeChar?_extract]
    · simp
      omega

/-- **Nothing is lost.**  The decoded runes, encoded again, are the beginning of
the bytes; behind them is no rune, and nothing at all if the decoding is
complete. -/
theorem eq_utf8Encode_runes_append (bytes : ByteArray) :
    ∃ tail, bytes = (decode bytes).runes.utf8Encode ++ tail ∧
      tail.utf8DecodeChar? 0 = none ∧ (decode bytes).complete = decide (tail.size = 0) := by
  obtain ⟨runes, tail, hbytes, htail, hread⟩ := exists_decodeFrom bytes 0 [] (Nat.zero_le _)
  refine ⟨tail, ?_, htail, ?_⟩
  · rw [decode, hread]
    simpa using hbytes
  · rw [decode, hread]

theorem decodeFrom_utf8Encode_append (runes : List Char) {tail : ByteArray}
    (htail : tail.utf8DecodeChar? 0 = none) (front : ByteArray) (read : List Char) :
    decodeFrom (front ++ (runes.utf8Encode ++ tail)) front.size read =
      ⟨read.reverse ++ runes, tail.size = 0⟩ := by
  induction runes generalizing front read with
  | nil =>
    rw [decodeFrom]
    split <;> rename_i heq <;> rw [utf8DecodeChar?_append_size] at heq
    · simp [htail] at heq
    · simp only [List.utf8Encode_nil, ByteArray.empty_append, ByteArray.size_append,
        List.append_nil, Decoding.mk.injEq, true_and, decide_eq_decide]
      omega
  | cons rune rest ih =>
    rw [decodeFrom, utf8Encode_cons_append]
    split <;> rename_i heq <;>
      rw [utf8DecodeChar?_append_size, List.utf8DecodeChar?_utf8Encode_singleton_append] at heq
    · cases heq
      have hsize : front.size + rune.utf8Size = (front ++ [rune].utf8Encode).size := by
        simp [List.utf8Encode_singleton]
      rw [hsize, ← ByteArray.append_assoc, ih]
      simp
    · cases heq

/-- **Decoding undoes encoding,** up to bytes that begin with no rune. -/
theorem decode_utf8Encode_append (runes : List Char) {tail : ByteArray}
    (htail : tail.utf8DecodeChar? 0 = none) :
    decode (runes.utf8Encode ++ tail) = ⟨runes, tail.size = 0⟩ := by
  simpa [decode] using decodeFrom_utf8Encode_append runes htail ByteArray.empty []

/-- A text is decoded to its runes. -/
@[simp] theorem decode_toByteArray (text : String) :
    decode text.toByteArray = ⟨text.toList, true⟩ := by
  have htail : ByteArray.empty.utf8DecodeChar? 0 = none := by decide
  simpa using decode_utf8Encode_append text.toList htail

theorem lossyFrom_utf8Encode (runes : List Char) (front : ByteArray) (shown : List Char) :
    lossyFrom (front ++ runes.utf8Encode) front.size shown = shown.reverse ++ runes := by
  induction runes generalizing front shown with
  | nil =>
    rw [lossyFrom, if_neg (by simp), List.append_nil]
  | cons rune rest ih =>
    have hinside : front.size < (front ++ (rune :: rest).utf8Encode).size := by
      have := rune.utf8Size_pos
      rw [ByteArray.size_append, List.utf8Encode_cons, ByteArray.size_append,
        List.utf8Encode_singleton, List.size_toByteArray, String.length_utf8EncodeChar]
      omega
    have hsize : front.size + rune.utf8Size = (front ++ [rune].utf8Encode).size := by
      simp [List.utf8Encode_singleton]
    have hrune : (front ++ (rune :: rest).utf8Encode).utf8DecodeChar? front.size = some rune := by
      rw [utf8DecodeChar?_append_size, List.utf8Encode_cons,
        List.utf8DecodeChar?_utf8Encode_singleton_append]
    rw [lossyFrom, if_pos hinside, hrune]
    simp only
    rw [hsize, List.utf8Encode_cons, ← ByteArray.append_assoc, ih]
    simp

/-- A text is shown as it is. -/
@[simp] theorem lossy_toByteArray (text : String) : lossy text.toByteArray = text := by
  have hshown := lossyFrom_utf8Encode text.toList ByteArray.empty []
  rw [ByteArray.empty_append, String.utf8Encode_toList] at hshown
  rw [lossy]
  exact (congrArg String.ofList hshown).trans (by simp)

/-- Bytes that are decoded to their end are the encoding of their runes. -/
theorem eq_utf8Encode_of_complete {bytes : ByteArray} (h : (decode bytes).complete = true) :
    bytes = (decode bytes).runes.utf8Encode := by
  obtain ⟨tail, hbytes, _, hcomplete⟩ := eq_utf8Encode_runes_append bytes
  rw [hcomplete, decide_eq_true_eq] at h
  rw [ByteArray.size_eq_zero_iff] at h
  simpa [h] using hbytes

/-- A decoding is complete exactly if the bytes are well-formed. -/
theorem complete_decode_iff {bytes : ByteArray} :
    (decode bytes).complete = true ↔ bytes.IsValidUTF8 := by
  constructor
  · intro h
    exact ⟨_, eq_utf8Encode_of_complete h⟩
  · rintro ⟨runes, rfl⟩
    simpa using congrArg Decoding.complete (decode_toByteArray (String.ofList runes))

/-- The text of bytes is what they encode. -/
theorem text?_eq_some_iff {bytes : ByteArray} {text : String} :
    text? bytes = some text ↔ bytes = text.toByteArray := by
  constructor
  · intro h
    simp only [text?, Option.ite_none_right_eq_some, Option.some.injEq] at h
    obtain ⟨hcomplete, rfl⟩ := h
    simpa using eq_utf8Encode_of_complete hcomplete
  · rintro rfl
    simp [text?]

/-- The first of the decoded runes stands at the start. -/
theorem head?_runes_decode (bytes : ByteArray) :
    (decode bytes).runes.head? = bytes.utf8DecodeChar? 0 := by
  obtain ⟨tail, hbytes, htail, -⟩ := eq_utf8Encode_runes_append bytes
  cases hrunes : (decode bytes).runes with
  | nil =>
    rw [hrunes, List.utf8Encode_nil, ByteArray.empty_append] at hbytes
    rw [hbytes, htail, List.head?_nil]
  | cons rune rest =>
    rw [hrunes, utf8Encode_cons_append] at hbytes
    rw [hbytes, List.utf8DecodeChar?_utf8Encode_singleton_append, List.head?_cons]

/-- A rune is decoded from four bytes as it is from all that follow. -/
theorem utf8DecodeChar?_extract_four (bytes : ByteArray) :
    (bytes.extract 0 4).utf8DecodeChar? 0 = bytes.utf8DecodeChar? 0 := by
  cases hrune : bytes.utf8DecodeChar? 0 with
  | some rune =>
    obtain ⟨more, hbytes⟩ := ByteArray.exists_of_utf8DecodeChar?_eq_some hrune
    rw [← List.utf8Encode_singleton] at hbytes
    have hfour : max 4 [rune].utf8Encode.size = 4 := by
      have := rune.utf8Size_le_four
      rw [List.utf8Encode_singleton]
      simp
      omega
    have hfits : [rune].utf8Encode.extract 0 4 = [rune].utf8Encode := by
      have hmax := @ByteArray.extract_zero_max_size [rune].utf8Encode 4
      rwa [hfour] at hmax
    rw [hbytes, ByteArray.extract_append, hfits]
    exact List.utf8DecodeChar?_utf8Encode_singleton_append
  | none =>
    cases hwindow : (bytes.extract 0 4).utf8DecodeChar? 0 with
    | none => rfl
    | some rune =>
      have hsplit : bytes.extract 0 4 ++ bytes.extract 4 bytes.size = bytes := by
        rw [ByteArray.extract_append_extract]
        simp
      have hmore := ByteArray.utf8DecodeChar?_append_eq_some hwindow (bytes.extract 4 bytes.size)
      rw [hsplit, hrune] at hmore
      cases hmore

/-- **Four bytes are enough.**  The rune at a byte is the one that all bytes from
there on begin with. -/
theorem runeAt?_eq_utf8DecodeChar? (bytes : ByteArray) (i : Nat) :
    runeAt? bytes i = bytes.utf8DecodeChar? i := by
  have hwindow : bytes.extract i (i + 4) = (bytes.extract i bytes.size).extract 0 4 := by
    apply ByteArray.ext
    simp only [ByteArray.extract_extract, ByteArray.data_extract, Nat.add_zero,
      Array.extract_eq_extract_right, ByteArray.size_data]
    omega
  rw [runeAt?, head?_runes_decode, hwindow, utf8DecodeChar?_extract_four,
    ← ByteArray.utf8DecodeChar?_eq_utf8DecodeChar?_extract]

/-- Bytes that begin no rune begin none when a rune is put behind them, because
no rune has the first byte of another one inside of it. -/
theorem utf8DecodeChar?_append_rune {tail : ByteArray} (hne : tail.size ≠ 0)
    (htail : tail.utf8DecodeChar? 0 = none) (rune : Char) (back : ByteArray) :
    (tail ++ ([rune].utf8Encode ++ back)).utf8DecodeChar? 0 = none := by
  cases hfound : (tail ++ ([rune].utf8Encode ++ back)).utf8DecodeChar? 0 with
  | none => rfl
  | some found =>
    exfalso
    obtain ⟨more, hbytes⟩ := ByteArray.exists_of_utf8DecodeChar?_eq_some hfound
    rw [← List.utf8Encode_singleton] at hbytes
    by_cases hfits : [found].utf8Encode.size ≤ tail.size
    · -- The rune lies within the tail, which would be decoded to it.
      have hsplit : tail.extract 0 [found].utf8Encode.size ++
          tail.extract [found].utf8Encode.size tail.size = tail := by
        rw [ByteArray.extract_append_extract]
        simp [Nat.max_eq_right hfits]
      rw [← hsplit, ByteArray.append_assoc, ByteArray.append_eq_append_iff_of_size_eq_left
        (by rw [ByteArray.size_extract]; omega)] at hbytes
      rw [hbytes.1] at hsplit
      rw [← hsplit, List.utf8DecodeChar?_utf8Encode_singleton_append] at htail
      cases htail
    · -- The rune reaches over the tail, and its bytes there begin another one.
      have hinside : tail.size < [found].utf8Encode.size := by omega
      have hpos : 0 < [rune].utf8Encode.size := by
        simpa [List.utf8Encode_singleton] using rune.utf8Size_pos
      have hlong : tail.size < (tail ++ ([rune].utf8Encode ++ back)).size := by
        simp only [ByteArray.size_append]
        omega
      have hbyte : [found].utf8Encode[tail.size] = [rune].utf8Encode[0] := by
        have hright : (tail ++ ([rune].utf8Encode ++ back))[tail.size] =
            [rune].utf8Encode[0] := by
          rw [ByteArray.getElem_append_right (Nat.le_refl _)]
          simp only [Nat.sub_self]
          exact ByteArray.getElem_append_left hpos
        rw [← hright]
        simp only [hbytes]
        exact (ByteArray.getElem_append_left hinside).symm
      have hfirst : [rune].utf8Encode[0].IsUTF8FirstByte :=
        List.isUTF8FirstByte_getElem_utf8Encode_singleton.2 rfl
      rw [← hbyte] at hfirst
      exact hne (List.isUTF8FirstByte_getElem_utf8Encode_singleton.1 hfirst)

/-- **Malformed bytes stay malformed,** whatever runes are put behind them. -/
theorem decode_append_of_incomplete {front : ByteArray}
    (hfront : (decode front).complete = false) {runes : List Char} (hne : runes ≠ [])
    (back : ByteArray) : decode (front ++ (runes.utf8Encode ++ back)) = decode front := by
  obtain ⟨tail, hbytes, htail, hcomplete⟩ := eq_utf8Encode_runes_append front
  have htailSize : tail.size ≠ 0 := by
    rw [hcomplete] at hfront
    simpa using hfront
  cases runes with
  | nil => exact absurd rfl hne
  | cons rune rest =>
    have hmore := utf8DecodeChar?_append_rune htailSize htail rune (rest.utf8Encode ++ back)
    have hwhole : front ++ ((rune :: rest).utf8Encode ++ back) =
        (decode front).runes.utf8Encode ++
          (tail ++ ([rune].utf8Encode ++ (rest.utf8Encode ++ back))) := by
      conv => rhs; rw [← ByteArray.append_assoc, ← hbytes]
      rw [utf8Encode_cons_append]
    rw [hwhole, decode_utf8Encode_append _ hmore]
    have hsize : (tail ++ ([rune].utf8Encode ++ (rest.utf8Encode ++ back))).size ≠ 0 := by
      rw [ByteArray.size_append]
      omega
    simp only [hsize, decide_false]
    rw [← hfront]

end Utf8
end SymbolAnnotations
