import SymbolAnnotations.Rune.Unprintable

/-!
# Quoted runes

Messages show a rune between single quotes.  A rune that would not be seen, or
would be mistaken for something else, is shown by an escape.
-/

namespace SymbolAnnotations
namespace Rune

/-- The rune as it stands between the quotes: a short escape for four controls
and the two runes that would end or start an escape, the number in hexadecimal
for runes without a printed form, and else the rune itself. -/
def escaped (rune : Char) : String :=
  match rune with
  | '\x00' => "\\0"
  | '\t' => "\\t"
  | '\r' => "\\r"
  | '\n' => "\\n"
  | '\'' => "\\'"
  | '\\' => "\\\\"
  | _ =>
    if unprintable.contains rune then
      "\\u\x7b" ++ String.ofList (Nat.toDigits 16 rune.toNat) ++ "\x7d"
    else
      rune.toString

/-- The rune between single quotes. -/
def quoted (rune : Char) : String :=
  "'" ++ escaped rune ++ "'"

end Rune
end SymbolAnnotations
