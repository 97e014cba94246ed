/-!
# UTF-8 sources

A source is a byte string that should be UTF-8.  `decode` reads its longest
well-formed beginning rune by rune and notes whether that is all of it, which
is everything that the rest of the library ever asks of the bytes.  `lossy` is
the text to show for bytes that may not be UTF-8: each longest piece that
could still have become a rune, and else each single byte, is shown as U+FFFD.
-/

namespace SymbolAnnotations
namespace Utf8

/-- What a byte string reads as. -/
structure Decoding where
  /-- The runes of the longest well-formed beginning. -/
  runes : List Char
  /-- Whether nothing follows these runes.  Otherwise what follows begins with
  bytes that encode no rune. -/
  complete : Bool
deriving DecidableEq, Repr

/-- Reads on from byte `i`, where `read` holds the runes so far, the last one
first. -/
def decodeFrom (bytes : ByteArray) (i : Nat) (read : List Char) : Decoding :=
  match _ : bytes.utf8DecodeChar? i with
  | some rune => decodeFrom bytes (i + rune.utf8Size) (rune :: read)
  | none => ⟨read.reverse, bytes.size ≤ i⟩
termination_by bytes.size - i
decreasing_by
  have := ByteArray.le_size_of_utf8DecodeChar?_eq_some ‹_ = some rune›
  have := rune.utf8Size_pos
  omega

/-- Reads a byte string from its start. -/
def decode (bytes : ByteArray) : Decoding :=
  decodeFrom bytes 0 []

/-- The rune at byte `i`.  A rune takes four bytes at most, and so many are
decoded; what they hold behind the rune, or of a rune that they cut off, does
not count. -/
def runeAt? (bytes : ByteArray) (i : Nat) : Option Char :=
  (decode (bytes.extract i (i + 4))).runes.head?

/-- The text that a byte string encodes, if it is well-formed to its end. -/
def text? (bytes : ByteArray) : Option String :=
  let decoding := decode bytes
  if decoding.complete then some (String.ofList decoding.runes) else none

/-- The number of bytes that the runes take. -/
def size (runes : List Char) : Nat :=
  runes.foldr (fun rune bytes => rune.utf8Size + bytes) 0

/-- A byte that continues a rune. -/
def isContinuation (byte : UInt8) : Bool :=
  0x80 ≤ byte && byte ≤ 0xBF

/-- Whether some rune of three or four bytes begins with these two bytes. -/
def opensLongRune (first second : UInt8) : Bool :=
  if first == 0xE0 then 0xA0 ≤ second && second ≤ 0xBF
  else if first == 0xED then 0x80 ≤ second && second ≤ 0x9F
  else if first == 0xF0 then 0x90 ≤ second && second ≤ 0xBF
  else if first == 0xF4 then 0x80 ≤ second && second ≤ 0x8F
  else 0xE1 ≤ first && first ≤ 0xF3 && isContinuation second

/-- The length of the malformed piece at byte `i`, where no rune is encoded:
the longest beginning of a rune that stands there, and at least one byte. -/
def malformedLength (bytes : ByteArray) (i : Nat) : Nat :=
  match bytes[i]?, bytes[i + 1]?, bytes[i + 2]? with
  | some first, some second, third =>
    if !opensLongRune first second then 1
    else if first < 0xF0 then 2
    else if third.any isContinuation then 3
    else 2
  | _, _, _ => 1

theorem malformedLength_pos (bytes : ByteArray) (i : Nat) : 0 < malformedLength bytes i := by
  unfold malformedLength
  repeat' split
  all_goals decide

/-- The rune that stands for malformed bytes. -/
def replacement : Char := '\uFFFD'

/-- Shows on from byte `i`, where `shown` holds the runes so far, the last one
first. -/
def lossyFrom (bytes : ByteArray) (i : Nat) (shown : List Char) : List Char :=
  if i < bytes.size then
    match bytes.utf8DecodeChar? i with
    | some rune => lossyFrom bytes (i + rune.utf8Size) (rune :: shown)
    | none => lossyFrom bytes (i + malformedLength bytes i) (replacement :: shown)
  else
    shown.reverse
termination_by bytes.size - i
decreasing_by
  · have := rune.utf8Size_pos
    omega
  · have := malformedLength_pos bytes i
    omega

/-- The text to show for a byte string. -/
def lossy (bytes : ByteArray) : String :=
  String.ofList (lossyFrom bytes 0 [])

end Utf8
end SymbolAnnotations
