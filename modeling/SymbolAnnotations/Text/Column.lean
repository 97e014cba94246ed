/-!
# Columns of text

Text in a column is padded with spaces on one side; text that is wider than its
column is left as it is.
-/

namespace SymbolAnnotations

/-- So many copies of a rune. -/
def times (count : Nat) (rune : Char) : String :=
  String.ofList (List.replicate count rune)

/-- Text at the left of a column. -/
def flushLeft (width : Nat) (text : String) : String :=
  text ++ times (width - text.length) ' '

/-- Text at the right of a column. -/
def flushRight (width : Nat) (text : String) : String :=
  times (width - text.length) ' ' ++ text

end SymbolAnnotations
