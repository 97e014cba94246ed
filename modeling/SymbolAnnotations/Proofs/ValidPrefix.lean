import Mathlib.Order.Bounds.Defs
import Mathlib.Data.List.Induction
import SymbolAnnotations.Source.Position
import SymbolAnnotations.Text.Utf8.Lemmas

/-!
# The well-formed beginning of a source

A source is read as the runes of its longest well-formed beginning.  What
stands behind some runes is decoded as it is on its own, so cutting a source
between two runes, and putting other bytes there, changes nothing before the
cut.

* `decode_utf8Encode_append_bytes` — decoding goes on behind runes;
* `isGreatest_validUpTo` — the decoded runes take exactly the bytes of the
  longest well-formed beginning;
* `line_afterAll`, `column_afterAll`, `byteOffset_afterAll`, `runeOffset_afterAll`
  — a place is counted from the runes in front of it.
-/

namespace SymbolAnnotations
namespace Utf8

@[simp] theorem size_nil : size [] = 0 := rfl

@[simp] theorem size_cons (rune : Char) (rest : List Char) :
    size (rune :: rest) = rune.utf8Size + size rest := rfl

theorem size_append (front back : List Char) :
    size (front ++ back) = size front + size back := by
  induction front with
  | nil => rw [List.nil_append, size_nil, Nat.zero_add]
  | cons rune rest ih => rw [List.cons_append, size_cons, ih, size_cons, Nat.add_assoc]

/-- The size of runes is that of their encoding. -/
theorem size_utf8Encode (runes : List Char) : runes.utf8Encode.size = size runes := by
  induction runes with
  | nil => rfl
  | cons rune rest ih =>
      rw [List.utf8Encode_cons, ByteArray.size_append, ih, size_cons]
      simp [List.utf8Encode_singleton]

/-- **Decoding goes on behind runes** as if it began there. -/
theorem decode_utf8Encode_append_bytes (front : List Char) (bytes : ByteArray) :
    decode (front.utf8Encode ++ bytes) =
      ⟨front ++ (decode bytes).runes, (decode bytes).complete⟩ := by
  obtain ⟨tail, hbytes, htail, hcomplete⟩ := eq_utf8Encode_runes_append bytes
  have hwhole : front.utf8Encode ++ bytes =
      (front ++ (decode bytes).runes).utf8Encode ++ tail := by
    rw [List.utf8Encode_append, ByteArray.append_assoc, ← hbytes]
  rw [hwhole, decode_utf8Encode_append _ htail, hcomplete]

/-- Runes are decoded from their encoding. -/
theorem decode_utf8Encode (runes : List Char) : decode runes.utf8Encode = ⟨runes, true⟩ := by
  simpa using decode_toByteArray (String.ofList runes)

/-- The number of bytes of the longest well-formed beginning. -/
def validUpTo (bytes : ByteArray) : Nat :=
  size (decode bytes).runes

/-- The bytes that the first of the decoded runes take. -/
theorem extract_size_of_runes_eq {bytes : ByteArray} {front back : List Char}
    (hrunes : (decode bytes).runes = front ++ back) :
    bytes.extract 0 (size front) = front.utf8Encode := by
  obtain ⟨tail, hbytes, -, -⟩ := eq_utf8Encode_runes_append bytes
  rw [hrunes, List.utf8Encode_append, ByteArray.append_assoc] at hbytes
  rw [hbytes]
  exact ByteArray.extract_append_eq_left (size_utf8Encode front).symm

/-- The bytes that some of the decoded runes take. -/
theorem extract_of_runes_eq {bytes : ByteArray} {front middle back : List Char}
    (hrunes : (decode bytes).runes = front ++ (middle ++ back)) :
    bytes.extract (size front) (size front + size middle) = middle.utf8Encode := by
  have hboth : bytes.extract 0 (size front + size middle) =
      front.utf8Encode ++ middle.utf8Encode := by
    rw [← size_append, ← List.utf8Encode_append]
    apply extract_size_of_runes_eq
    rw [hrunes, List.append_assoc]
  have hcut := congrArg (ByteArray.extract · (size front) (size front + size middle)) hboth
  simp only [ByteArray.extract_extract, Nat.zero_add, Nat.min_self] at hcut
  rw [hcut]
  exact ByteArray.extract_append_eq_right (size_utf8Encode front).symm
    (by rw [size_utf8Encode, size_utf8Encode])

/-- Behind runes that have been decoded stands the next one. -/
theorem runeAt?_of_runes_eq {bytes : ByteArray} {front back : List Char}
    (hrunes : (decode bytes).runes = front ++ back) :
    runeAt? bytes (size front) = back.head? := by
  obtain ⟨tail, hbytes, htail, -⟩ := eq_utf8Encode_runes_append bytes
  rw [hrunes, List.utf8Encode_append, ByteArray.append_assoc] at hbytes
  rw [runeAt?_eq_utf8DecodeChar?, hbytes, ← size_utf8Encode, utf8DecodeChar?_append_size,
    ← head?_runes_decode, decode_utf8Encode_append back htail]

/-- The bytes that all decoded runes take. -/
theorem extract_validUpTo (bytes : ByteArray) :
    bytes.extract 0 (validUpTo bytes) = (decode bytes).runes.utf8Encode :=
  extract_size_of_runes_eq (List.append_nil _).symm

/-- **The longest well-formed beginning** is what the decoded runes take. -/
theorem isGreatest_validUpTo (bytes : ByteArray) :
    IsGreatest {n | n ≤ bytes.size ∧ (bytes.extract 0 n).IsValidUTF8} (validUpTo bytes) := by
  constructor
  · obtain ⟨tail, hbytes, -, -⟩ := eq_utf8Encode_runes_append bytes
    have hsize := congrArg ByteArray.size hbytes
    rw [ByteArray.size_append, size_utf8Encode] at hsize
    refine ⟨by rw [hsize]; exact Nat.le_add_right _ _, ?_⟩
    rw [extract_validUpTo]
    exact ⟨_, rfl⟩
  · intro n hprefix
    obtain ⟨hn, front, hfront⟩ := hprefix
    have hbytes : bytes = front.utf8Encode ++ bytes.extract n bytes.size := by
      rw [← hfront, ByteArray.extract_append_extract]
      simp [hn]
    have hdecode := decode_utf8Encode_append_bytes front (bytes.extract n bytes.size)
    rw [← hbytes] at hdecode
    have hlength : n = size front := by
      rw [← size_utf8Encode, ← hfront, ByteArray.size_extract]
      omega
    rw [validUpTo, hdecode, size_append, hlength]
    exact Nat.le_add_right _ _

/-- Bytes are decoded to their end if they are their well-formed beginning. -/
theorem complete_decode_iff_validUpTo {bytes : ByteArray} :
    (decode bytes).complete = true ↔ validUpTo bytes = bytes.size := by
  obtain ⟨tail, hbytes, -, hcomplete⟩ := eq_utf8Encode_runes_append bytes
  have hsize := congrArg ByteArray.size hbytes
  rw [ByteArray.size_append, size_utf8Encode, ← validUpTo] at hsize
  rw [hcomplete, decide_eq_true_eq]
  omega

end Utf8

namespace Position

variable (position : Position) (runes : List Char)

theorem byteOffset_afterAll :
    (position.afterAll runes).byteOffset = position.byteOffset + Utf8.size runes := by
  induction runes generalizing position with
  | nil => rfl
  | cons rune rest ih =>
      rw [afterAll_cons, ih, Utf8.size_cons, after, Nat.add_assoc]

theorem runeOffset_afterAll :
    (position.afterAll runes).runeOffset = position.runeOffset + runes.length := by
  induction runes generalizing position with
  | nil => rfl
  | cons rune rest ih =>
      rw [afterAll_cons, ih, List.length_cons]
      simp only [after]
      omega

/-- Newlines count lines. -/
theorem line_afterAll :
    (position.afterAll runes).line = position.line + runes.count '\n' := by
  induction runes generalizing position with
  | nil => rfl
  | cons rune rest ih =>
      rw [afterAll_cons, ih, after, List.count_cons]
      by_cases hnewline : rune = '\n'
      · simp only [hnewline, if_true, beq_self_eq_true]
        omega
      · simp [hnewline]

/-- Runes behind the last newline count columns. -/
theorem column_afterAll :
    (({} : Position).afterAll runes).column =
      1 + (runes.reverse.takeWhile (· != '\n')).length := by
  induction runes using List.reverseRecOn with
  | nil => rfl
  | append_singleton front rune ih =>
      rw [afterAll_append, afterAll_cons, afterAll_nil, after, ih, List.reverse_append]
      by_cases hnewline : rune = '\n'
      · simp [hnewline]
      · simp [hnewline, Nat.add_assoc]

end Position
end SymbolAnnotations
