import Mathlib.Order.Bounds.Basic
import SymbolAnnotations.Text.Utf8.Lemmas

/-!
# Malformed pieces

Where a source goes on with bytes that encode no rune, the shown text has one U+FFFD
for each malformed piece.  A piece is told from at most three bytes: it is as long as
the longest beginning of a rune that stands there, and one byte long if no rune
begins like that.

* `utf8EncodeChar_cases`, `exists_prefix_of_opensLongRune` — the bytes that a rune of
  three or four bytes begins with, and that every such beginning is one of a rune;
* `isGreatest_malformedLength` — a malformed piece is as long as it can be;
* `shows_lossy` — the shown text, rune by rune and piece by piece.
-/

namespace SymbolAnnotations
namespace Utf8

theorem opensLongRune_iff (first second : UInt8) :
    opensLongRune first second = true ↔
      if first.toNat = 0xE0 then 0xA0 ≤ second.toNat ∧ second.toNat ≤ 0xBF
      else if first.toNat = 0xED then 0x80 ≤ second.toNat ∧ second.toNat ≤ 0x9F
      else if first.toNat = 0xF0 then 0x90 ≤ second.toNat ∧ second.toNat ≤ 0xBF
      else if first.toNat = 0xF4 then 0x80 ≤ second.toNat ∧ second.toNat ≤ 0x8F
      else 0xE1 ≤ first.toNat ∧ first.toNat ≤ 0xF3 ∧ 0x80 ≤ second.toNat ∧ second.toNat ≤ 0xBF := by
  simp only [opensLongRune, isContinuation, beq_iff_eq, UInt8.le_iff_toNat_le, ← UInt8.toNat_inj,
    UInt8.reduceToNat]
  split
  · simp
  · split
    · simp
    · split
      · simp
      · split
        · simp
        · simp [and_assoc]

theorem isContinuation_iff (byte : UInt8) :
    isContinuation byte = true ↔ 0x80 ≤ byte.toNat ∧ byte.toNat ≤ 0xBF := by
  simp [isContinuation, UInt8.le_iff_toNat_le]

theorem toNat_ofNat {n : Nat} (h : n < 256) : (UInt8.ofNat n).toNat = n :=
  UInt8.toNat_ofNat_of_lt' h

/-- A byte is told by its number. -/
theorem ofNat_eq_iff {n : Nat} {byte : UInt8} (h : n < 256) :
    UInt8.ofNat n = byte ↔ n = byte.toNat := by
  rw [← UInt8.toNat_inj, toNat_ofNat h]

/-- The bytes of a rune: two at most, or three, or four. -/
theorem utf8EncodeChar_cases (rune : Char) :
    (String.utf8EncodeChar rune).length ≤ 2 ∨
      (∃ first second third, String.utf8EncodeChar rune = [first, second, third] ∧
        opensLongRune first second = true) ∨
      ∃ first second third fourth, String.utf8EncodeChar rune = [first, second, third, fourth] ∧
        opensLongRune first second = true ∧ 0xF0 ≤ first ∧ isContinuation third = true := by
  have hvalid : rune.val.toNat.isValidChar := rune.valid
  rw [Nat.isValidChar] at hvalid
  rw [String.utf8EncodeChar]
  generalize rune.val.toNat = value at hvalid ⊢
  split
  · exact .inl (by simp)
  · split
    · exact .inl (by simp)
    · right
      split
      · refine .inl ⟨_, _, _, rfl, ?_⟩
        rw [opensLongRune_iff, toNat_ofNat (by omega), toNat_ofNat (by omega)]
        split_ifs <;> omega
      · refine .inr ⟨_, _, _, _, rfl, ?_, ?_, ?_⟩
        · rw [opensLongRune_iff, toNat_ofNat (by omega), toNat_ofNat (by omega)]
          split_ifs <;> omega
        · rw [UInt8.le_iff_toNat_le, toNat_ofNat (by omega)]
          exact Nat.le_add_left _ _
        · rw [isContinuation_iff, toNat_ofNat (by omega)]
          omega

/-- The rune with the number that three bytes hold begins with the first two. -/
theorem exists_prefix_of_three {first second : UInt8} (h : opensLongRune first second = true)
    (hfirst : first.toNat < 0xF0) :
    ∃ rune : Char, [first, second] <+: String.utf8EncodeChar rune := by
  rw [opensLongRune_iff] at h
  generalize hvalue : (first.toNat - 0xE0) * 4096 + (second.toNat - 0x80) * 64 = value
  have hlower : 0x7FF < value := by split_ifs at h <;> omega
  have hupper : value ≤ 0xFFFF := by split_ifs at h <;> omega
  have hvalid : value.isValidChar := by
    rw [Nat.isValidChar]
    split_ifs at h <;> omega
  have hone : UInt8.ofNat (value / 4096 % 16 + 224) = first := by
    rw [ofNat_eq_iff (by omega)]
    split_ifs at h <;> omega
  have htwo : UInt8.ofNat (value / 64 % 64 + 128) = second := by
    rw [ofNat_eq_iff (by omega)]
    split_ifs at h <;> omega
  refine ⟨Char.ofNatAux value hvalid, ?_⟩
  have hnumber : (Char.ofNatAux value hvalid).val.toNat = value := rfl
  rw [String.utf8EncodeChar, hnumber, if_neg (by omega), if_neg (by omega), if_pos hupper, hone,
    htwo]
  exact List.prefix_append [first, second] _

/-- The rune with the number that four bytes hold begins with the first three. -/
theorem exists_prefix_of_four {first second third : UInt8}
    (h : opensLongRune first second = true) (hfirst : 0xF0 ≤ first.toNat)
    (hthird : isContinuation third = true) :
    ∃ rune : Char, [first, second, third] <+: String.utf8EncodeChar rune := by
  rw [opensLongRune_iff] at h
  rw [isContinuation_iff] at hthird
  generalize hvalue : (first.toNat - 0xF0) * 262144 + (second.toNat - 0x80) * 4096 +
    (third.toNat - 0x80) * 64 = value
  have hlower : 0xFFFF < value := by split_ifs at h <;> omega
  have hvalid : value.isValidChar := by
    rw [Nat.isValidChar]
    split_ifs at h <;> omega
  have hone : UInt8.ofNat (value / 262144 % 8 + 240) = first := by
    rw [ofNat_eq_iff (by omega)]
    split_ifs at h <;> omega
  have htwo : UInt8.ofNat (value / 4096 % 64 + 128) = second := by
    rw [ofNat_eq_iff (by omega)]
    split_ifs at h <;> omega
  have hthree : UInt8.ofNat (value / 64 % 64 + 128) = third := by
    rw [ofNat_eq_iff (by omega)]
    split_ifs at h <;> omega
  refine ⟨Char.ofNatAux value hvalid, ?_⟩
  have hnumber : (Char.ofNatAux value hvalid).val.toNat = value := rfl
  rw [String.utf8EncodeChar, hnumber, if_neg (by omega), if_neg (by omega), if_neg (by omega),
    hone, htwo, hthree]
  exact List.prefix_append [first, second, third] _

/-- What opens a long rune is the beginning of one. -/
theorem exists_prefix_of_opensLongRune {first second : UInt8}
    (h : opensLongRune first second = true) :
    ∃ rune : Char, [first, second] <+: String.utf8EncodeChar rune := by
  by_cases hfirst : 0xF0 ≤ first.toNat
  · have hcontinues : isContinuation 0x80 = true := by decide
    obtain ⟨rune, hrune⟩ := exists_prefix_of_four h hfirst hcontinues
    exact ⟨rune, (List.prefix_append [first, second] [0x80]).trans hrune⟩
  · exact exists_prefix_of_three h (by omega)

/-- The length of the malformed piece that stands in front of these bytes. -/
def pieceLength : List UInt8 → Nat
  | first :: second :: rest =>
    if !opensLongRune first second then 1
    else if first < 0xF0 then 2
    else if rest.head?.any isContinuation then 3
    else 2
  | _ => 1

theorem malformedLength_eq (bytes : ByteArray) (i : Nat) :
    malformedLength bytes i = pieceLength (bytes.data.toList.drop i) := by
  have hbyte : ∀ k, bytes[i + k]? = (bytes.data.toList.drop i)[k]? := by
    intro k
    rw [List.getElem?_drop, Array.getElem?_toList]
    rfl
  have hfirst := hbyte 0
  rw [Nat.add_zero] at hfirst
  rw [malformedLength, hfirst, hbyte 1, hbyte 2]
  generalize bytes.data.toList.drop i = tail
  match tail with
  | [] | [_] => rfl
  | first :: second :: rest => simp [pieceLength, List.head?_eq_getElem?]

section Piece

variable {first second third : UInt8} (rest : List UInt8)

theorem pieceLength_of_not_opensLongRune (h : ¬ opensLongRune first second = true) :
    pieceLength (first :: second :: rest) = 1 := by
  simp [pieceLength, h]

theorem two_le_pieceLength (h : opensLongRune first second = true) :
    2 ≤ pieceLength (first :: second :: rest) := by
  rw [pieceLength, h, Bool.not_true, if_neg Bool.false_ne_true]
  split
  · exact Nat.le_refl 2
  · split <;> decide

theorem pieceLength_of_four (h : opensLongRune first second = true) (hfirst : 0xF0 ≤ first)
    (hthird : isContinuation third = true) :
    pieceLength (first :: second :: third :: rest) = 3 := by
  simp [pieceLength, h, UInt8.not_lt.2 hfirst, hthird]

theorem pieceLength_pos (tail : List UInt8) : 0 < pieceLength tail := by
  unfold pieceLength
  repeat' split
  all_goals decide

/-- Only a third byte that continues four bytes makes a piece longer than two. -/
theorem pieceLength_eq_two_or (h : opensLongRune first second = true) :
    pieceLength (first :: second :: rest) = 2 ∨
      ∃ third more, rest = third :: more ∧ 0xF0 ≤ first ∧ isContinuation third = true ∧
        pieceLength (first :: second :: rest) = 3 := by
  rw [pieceLength, h, Bool.not_true, if_neg Bool.false_ne_true]
  split
  · exact .inl rfl
  · rename_i hfirst
    split
    · rename_i hthird
      cases rest with
      | nil => cases hthird
      | cons third more => exact .inr ⟨third, more, rfl, UInt8.not_lt.1 hfirst, hthird, rfl⟩
    · exact .inl rfl

end Piece

/-- A piece is one byte or a beginning of a rune. -/
theorem pieceLength_eq_one_or (tail : List UInt8) :
    pieceLength tail = 1 ∨ pieceLength tail ≤ tail.length ∧
      ∃ rune : Char, tail.take (pieceLength tail) <+: String.utf8EncodeChar rune := by
  rcases tail with _ | ⟨first, _ | ⟨second, rest⟩⟩
  · exact .inl rfl
  · exact .inl rfl
  · by_cases hopens : opensLongRune first second = true
    · right
      rcases pieceLength_eq_two_or rest hopens with
        htwo | ⟨third, more, rfl, hfirst, hthird, hthree⟩
      · rw [htwo]
        exact ⟨by simp, exists_prefix_of_opensLongRune hopens⟩
      · rw [hthree]
        exact ⟨by simp, exists_prefix_of_four hopens (UInt8.le_iff_toNat_le.1 hfirst) hthird⟩
    · exact .inl (pieceLength_of_not_opensLongRune rest hopens)

/-- No longer beginning of a rune stands there, unless all of the rune does. -/
theorem le_pieceLength {tail : List UInt8} {length : Nat} {rune : Char}
    (hpart : ¬ String.utf8EncodeChar rune <+: tail) (hwithin : length ≤ tail.length)
    (hbegins : tail.take length <+: String.utf8EncodeChar rune) : length ≤ pieceLength tail := by
  have hshort : length < (String.utf8EncodeChar rune).length := by
    by_contra hlong
    have htake : tail.take length = String.utf8EncodeChar rune := by
      apply hbegins.eq_of_length_le
      rw [List.length_take]
      omega
    rw [← htake] at hpart
    exact hpart (List.take_prefix length tail)
  rcases tail with _ | ⟨first, _ | ⟨second, rest⟩⟩
  · exact Nat.le_trans hwithin (Nat.zero_le _)
  · exact hwithin
  · match length with
    | 0 => exact Nat.zero_le _
    | 1 => exact pieceLength_pos _
    | more + 2 =>
        rcases utf8EncodeChar_cases rune with hless | ⟨a, b, c, hrune, hopens⟩ |
          ⟨a, b, c, d, hrune, hopens, hfirst, hthird⟩
        · omega
        · simp only [hrune, List.take_succ_cons, List.cons_prefix_cons, List.length_cons,
            List.length_nil] at hbegins hshort
          obtain ⟨rfl, rfl, -⟩ := hbegins
          have htwo := two_le_pieceLength rest hopens
          omega
        · simp only [hrune, List.take_succ_cons, List.cons_prefix_cons, List.length_cons,
            List.length_nil] at hbegins hshort hwithin
          obtain ⟨rfl, rfl, hbegins⟩ := hbegins
          have htwo := two_le_pieceLength rest hopens
          match more, rest with
          | 0, _ => exact htwo
          | 1, third :: rest =>
              rw [List.take_succ_cons, List.cons_prefix_cons] at hbegins
              obtain ⟨rfl, -⟩ := hbegins
              exact (pieceLength_of_four rest hopens hfirst hthird).ge
          | 1, [] => simp at hwithin
          | _ + 2, _ => omega

variable {bytes : ByteArray} {i : Nat}

/-- Where no rune is encoded, there are not all bytes of one. -/
theorem not_prefix_of_utf8DecodeChar?_eq_none (h : bytes.utf8DecodeChar? i = none) (rune : Char) :
    ¬ String.utf8EncodeChar rune <+: bytes.data.toList.drop i := by
  rintro ⟨rest, hrest⟩
  have hbytes : bytes.extract i bytes.size = [rune].utf8Encode ++ rest.toByteArray := by
    apply ByteArray.ext
    rw [← Array.toList_inj, ByteArray.data_extract, Array.toList_extract, List.utf8Encode_singleton,
      ← List.toByteArray_append, List.toList_data_toByteArray, hrest, List.extract_eq_take_drop,
      List.take_of_length_le]
    rw [List.length_drop, Array.length_toList]
    exact Nat.le_refl _
  rw [ByteArray.utf8DecodeChar?_eq_utf8DecodeChar?_extract, hbytes,
    List.utf8DecodeChar?_utf8Encode_singleton_append] at h
  cases h

/-- A rune begins at byte `i` with the next bytes, so many of them. -/
def BeginsRune (bytes : ByteArray) (i length : Nat) : Prop :=
  i + length ≤ bytes.size ∧
    ∃ rune : Char, (bytes.extract i (i + length)).data.toList <+: String.utf8EncodeChar rune

/-- **A malformed piece is as long as it can be:** the longest beginning of a rune
where no rune is encoded, and at least one byte. -/
theorem isGreatest_malformedLength (hinside : i < bytes.size)
    (hnone : bytes.utf8DecodeChar? i = none) :
    IsGreatest {length | length = 1 ∨ BeginsRune bytes i length} (malformedLength bytes i) := by
  have hpiece : ∀ length, (bytes.extract i (i + length)).data.toList =
      (bytes.data.toList.drop i).take length := by
    intro length
    rw [ByteArray.data_extract, Array.toList_extract, List.extract_eq_take_drop,
      Nat.add_sub_cancel_left]
  have hsize : bytes.size - i = (bytes.data.toList.drop i).length := by
    rw [List.length_drop, Array.length_toList]
    rfl
  constructor
  · rcases pieceLength_eq_one_or (bytes.data.toList.drop i) with hone | ⟨hwithin, hrune⟩
    · left
      rw [malformedLength_eq, hone]
    · right
      rw [BeginsRune, hpiece, malformedLength_eq]
      exact ⟨by omega, hrune⟩
  · rintro length (rfl | ⟨hwithin, rune, hbegins⟩)
    · exact malformedLength_pos bytes i
    · rw [hpiece] at hbegins
      rw [malformedLength_eq]
      exact le_pieceLength (not_prefix_of_utf8DecodeChar?_eq_none hnone rune) (by omega) hbegins

/-- The runes are what the bytes from `i` on show: each rune that is encoded there as
itself, and each malformed piece, which is as long as it can be, as one U+FFFD. -/
inductive Shows (bytes : ByteArray) : Nat → List Char → Prop where
  | nothing {i : Nat} (hend : bytes.size ≤ i) : Shows bytes i []
  | rune {i : Nat} {rune : Char} {more : List Char} (hrune : bytes.utf8DecodeChar? i = some rune)
    (hmore : Shows bytes (i + rune.utf8Size) more) : Shows bytes i (rune :: more)
  | piece {i length : Nat} {more : List Char} (hinside : i < bytes.size)
    (hnone : bytes.utf8DecodeChar? i = none)
    (hlength : IsGreatest {length | length = 1 ∨ BeginsRune bytes i length} length)
    (hmore : Shows bytes (i + length) more) : Shows bytes i (replacement :: more)

/-- What has been shown stays, and the bytes behind it show next. -/
theorem exists_shows_lossyFrom (bytes : ByteArray) (i : Nat) (shown : List Char) :
    ∃ more, lossyFrom bytes i shown = shown.reverse ++ more ∧ Shows bytes i more := by
  fun_induction lossyFrom bytes i shown with
  | case1 i shown hinside rune hrune ih =>
      obtain ⟨more, hmore, hshows⟩ := ih
      exact ⟨rune :: more, by simp [hmore], .rune hrune hshows⟩
  | case2 i shown hinside hnone ih =>
      obtain ⟨more, hmore, hshows⟩ := ih
      exact ⟨replacement :: more, by simp [hmore],
        .piece hinside hnone (isGreatest_malformedLength hinside hnone) hshows⟩
  | case3 i shown hend =>
      exact ⟨[], (List.append_nil _).symm, .nothing (Nat.not_lt.1 hend)⟩

/-- **One U+FFFD for each malformed piece.** -/
theorem shows_lossy (bytes : ByteArray) : Shows bytes 0 (lossy bytes).toList := by
  obtain ⟨more, hmore, hshows⟩ := exists_shows_lossyFrom bytes 0 []
  rw [lossy, String.toList_ofList, hmore]
  exact hshows

end Utf8
end SymbolAnnotations
