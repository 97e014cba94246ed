import SymbolAnnotations.Rune.Extent
import SymbolAnnotations.Source.Error
import SymbolAnnotations.Text.Column
import SymbolAnnotations.Text.Utf8

/-!
# Reports with an excerpt

A report shows a fault in its source: the code and the message, then the line
of the fault with one line on either side, a mark under the place of the fault
with a label below it, and advice if there is any.

    sgoann::syntax

      × unexpected token at 2:3: ';', expected a type signature
       ╭─[foo.sgoann:2:3]
     1 │ A x
     2 │ B ;
       ·   ┬
       ·   ╰── unexpected token
       ╰────

The source is shown as text even where it is not UTF-8, so all offsets here are
offsets into the bytes of the shown text.  To find the lines around the fault, a
carriage return, a newline or both together end a line; in the lines shown, a
carriage return alone is an ordinary rune.  Columns are those of a terminal that
obeys escape sequences: all from an escape rune up to the next `m`, or else up to
the end of the line, takes no room.
-/

namespace SymbolAnnotations
namespace Report

/-- How many runes from the start, `taken` of which are counted already, it
takes to have at least `count` bytes more. -/
def runesWithin (count taken : Nat) : List Char → Nat
  | [] => taken
  | rune :: rest =>
    if count = 0 then taken else runesWithin (count - rune.utf8Size) (taken + 1) rest

/-- The fewest runes from the start that take at least `count` bytes. -/
def takeBytes (count : Nat) (runes : List Char) : List Char :=
  runes.take (runesWithin count 0 runes)

/-- The runes behind the first `count` bytes. -/
def dropBytes (count : Nat) (runes : List Char) : List Char :=
  runes.drop (runesWithin count 0 runes)

/-- A cut loses nothing. -/
theorem takeBytes_append_dropBytes (count : Nat) (runes : List Char) :
    takeBytes count runes ++ dropBytes count runes = runes :=
  List.take_append_drop _ runes

/-- The offsets of the last bytes of the line ends, in text that starts at byte
`offset`; `found` holds those before, the last one first. -/
def lineEndsFrom (offset : Nat) (found : List Nat) : List Char → List Nat
  | [] => found.reverse
  | '\r' :: '\n' :: rest => lineEndsFrom (offset + 2) ((offset + 1) :: found) rest
  | rune :: rest =>
    if rune = '\r' ∨ rune = '\n' then lineEndsFrom (offset + 1) (offset :: found) rest
    else lineEndsFrom (offset + rune.utf8Size) found rest

/-- The offsets of the last bytes of the line ends of a text. -/
def lineEnds (text : List Char) : List Nat :=
  lineEndsFrom 0 [] text

/-- The line ends that lie wholly before a byte offset. -/
def lineEndsBefore (text : List Char) (offset : Nat) : List Nat :=
  (lineEnds text).filter (· < offset)

/-- The line and the column to show for a byte offset.  Both count from one,
and the column counts bytes.  A carriage return whose newline is at the offset
counts for nothing. -/
def placeOf (text : List Char) (offset : Nat) : Nat × Nat :=
  let before := lineEndsBefore text offset
  let lineStart := (before.getLast?.map (· + 1)).getD 0
  let inLine := takeBytes (offset - lineStart) (dropBytes lineStart text)
  (before.length + 1, Utf8.size (inLine.filter (· != '\r')) + 1)

/-- A line that is shown. -/
structure Line where
  number : Nat
  /-- The byte offset of its first rune. -/
  offset : Nat
  /-- The number of its bytes, with the line end. -/
  length : Nat
  /-- Its runes, without the line end. -/
  runes : List Char
deriving DecidableEq, Repr

/-- The lines of a text that starts at byte `offset` behind `number` lines;
`current` holds the runes of the first line so far, the last one first.  A last
line that has no line end but a carriage return is numbered like the line
before it. -/
def linesFrom (number offset : Nat) (current : List Char) : List Char → List Line
  | [] =>
    match current with
    | [] => []
    | last :: _ =>
      [⟨if last = '\r' then number else number + 1, offset, Utf8.size current,
        current.reverse⟩]
  | '\r' :: '\n' :: rest =>
    let length := Utf8.size current + 2
    ⟨number + 1, offset, length, current.reverse⟩ ::
      linesFrom (number + 1) (offset + length) [] rest
  | '\n' :: rest =>
    let length := Utf8.size current + 1
    ⟨number + 1, offset, length, current.reverse⟩ ::
      linesFrom (number + 1) (offset + length) [] rest
  | rune :: rest => linesFrom number offset (rune :: current) rest

/-- The lines to show for a fault: its own, one before and one after. -/
def excerpt (text : List Char) (span : Span) : List Line :=
  let before := lineEndsBefore text span.offset
  let behind := (lineEnds text).filter (span.offset + span.length - 1 < ·)
  let start := (before.dropLast.getLast?.map (· + 1)).getD 0
  let shown := dropBytes start text
  let shown := match behind[1]? with
    | some lineEnd => takeBytes (lineEnd + 1 - start) shown
    | none => shown
  linesFrom (before.length - 1) start [] shown

/-- The rune that begins an escape sequence. -/
def escape : Char := '\x1b'

/-- The rune that ends an escape sequence. -/
def endOfEscape : Char := 'm'

/-- Where in a shown line the next rune goes. -/
structure Pen where
  column : Nat := 0
  /-- Whether the next rune belongs to an escape sequence. -/
  inEscape : Bool := false
deriving DecidableEq, Repr

namespace Pen

/-- The columns that the next rune takes.  A tab fills up to the next multiple
of four, and nothing of an escape sequence takes room. -/
def columnsOf (pen : Pen) (rune : Char) : Nat :=
  if pen.inEscape then 0
  else if rune = '\t' then 4 - pen.column % 4
  else Rune.columns rune

/-- The pen behind the next rune. -/
def after (pen : Pen) (rune : Char) : Pen where
  column := pen.column + pen.columnsOf rune
  inEscape := if pen.inEscape then rune != endOfEscape else rune == escape

end Pen

/-- The columns that runes take from the start of a line. -/
def width (runes : List Char) : Nat :=
  (runes.foldl Pen.after {}).column

/-- The runes of a line with its tabs written as spaces, where `shown` holds
what comes before them, the last rune first. -/
def expandTabsFrom (pen : Pen) (shown : List Char) : List Char → List Char
  | [] => shown.reverse
  | rune :: rest =>
    expandTabsFrom (pen.after rune)
      (if rune = '\t' then List.replicate (pen.columnsOf rune) ' ' ++ shown else rune :: shown)
      rest

/-- The runes of a line with its tabs written as spaces.  A tab in an escape
sequence goes without a trace. -/
def expandTabs (runes : List Char) : List Char :=
  expandTabsFrom {} [] runes

/-- The column in a shown line of the rune at a byte offset or, inside a rune,
of the next one.  The line end is one column behind the line. -/
def columnAt (line : Line) (offset : Nat) : Nat :=
  let inLine := offset - line.offset
  let columns := width (takeBytes inLine line.runes)
  if Utf8.size line.runes < inLine then columns + 1 else columns

/-- The two lines under a line with a span: the mark under the span and the
label below the middle of the mark. -/
def marks (margin : Nat) (line : Line) (span : Span) (label : String) : List String :=
  let first := columnAt line span.offset
  let last := max (columnAt line (span.offset + span.length)) (first + 1)
  let middle := (first + last) / 2
  let lead := " " ++ times margin ' ' ++ " · "
  [lead ++ times first ' ' ++ times (middle - first) '─' ++ "┬" ++ times (last - middle - 1) '─',
    lead ++ times middle ' ' ++ "╰── " ++ label]

/-- A shown line, and the marks if the span begins in it. -/
def lineRows (margin : Nat) (span : Span) (label : String) (line : Line) : List String :=
  let row := " " ++ flushRight margin (toString line.number) ++ " │ " ++
    String.ofList (expandTabs line.runes)
  if 0 < span.length ∧ line.offset ≤ span.offset ∧ span.offset < line.offset + line.length then
    row :: marks margin line span label
  else
    [row]

/-- The lines that words fill, where `line` begins the first one.  A word that
does not fit into `room` columns behind the words before it begins a new line. -/
def fillFrom (room : Nat) (line : String) : List String → List String
  | [] => [line]
  | word :: rest =>
    let longer := line ++ " " ++ word
    if width longer.toList ≤ room then fillFrom room longer rest
    else line :: fillFrom room word rest

theorem fillFrom_ne_nil (room : Nat) (line : String) (words : List String) :
    fillFrom room line words ≠ [] := by
  fun_induction fillFrom room line words <;> simp_all

/-- Breaking a text into lines loses nothing but the spaces at the breaks. -/
theorem intercalate_fillFrom (room : Nat) (line : String) (words : List String) :
    " ".intercalate (fillFrom room line words) = " ".intercalate (line :: words) := by
  fun_induction fillFrom room line words with
  | case1 => rfl
  | case2 line word rest longer h ih =>
    rw [ih]
    cases rest <;> simp [longer, String.append_assoc]
  | case3 line word rest longer h ih =>
    rw [String.intercalate_cons_of_ne_nil (fillFrom_ne_nil _ _ _), ih,
      String.intercalate_cons_cons]

/-- The lines of a text that is broken between words to fit into `room`
columns. -/
def fill (room : Nat) (text : String) : List String :=
  match text.splitOn " " with
  | [] => []
  | first :: rest => fillFrom room first rest

/-- How many columns the lines of a message have.  A report is made for 80; two
stay free, and four are taken by the sign before the message. -/
def messageRoom : Nat := 80 - 2 - 4

/-- The lines that show a message. -/
def messageRows (message : String) : List String :=
  match fill messageRoom message with
  | [] => []
  | first :: rest => ("  × " ++ first) :: rest.map ("  │ " ++ ·)

/-- The lines of the report on a fault of the source of the given name. -/
def rows (name : String) (source : ByteArray) (fault : ParseError) : List String :=
  let text := (Utf8.lossy source).toList
  let span := fault.span
  let lines := excerpt text span
  let margin := (toString ((lines.getLast?.map (·.number)).getD 0)).length
  let (line, column) := placeOf text span.offset
  [fault.kind.code, ""] ++ messageRows fault.message ++
  [times (margin + 2) ' ' ++ "╭─[" ++ name ++ ":" ++ toString line ++ ":" ++ toString column ++
      "]"] ++
  lines.flatMap (lineRows margin span fault.kind.label) ++
  [times (margin + 2) ' ' ++ "╰────"] ++
  (fault.kind.help?.map ("  help: " ++ ·)).toList

/-- The report without a line end. -/
def text (name : String) (source : ByteArray) (fault : ParseError) : String :=
  "\n".intercalate (rows name source fault)

/-- The report. -/
def render (name : String) (source : ByteArray) (fault : ParseError) : String :=
  text name source fault ++ "\n"

end Report
end SymbolAnnotations
