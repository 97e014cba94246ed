import SymbolAnnotations.Proofs.FaultCoordinates
import SymbolAnnotations.Proofs.ShownFaults

/-!
# The two places of a report

A report names the place of its fault twice: in its message, with the line and the
column that reading has counted, and above the excerpt, with a line and a column
that are found again in the shown text.  Reading ends lines at newlines and counts
runes; what stands above the excerpt also ends lines at carriage returns and counts
bytes.  So the two agree on sources in ASCII with plain newlines, and differ, for
instance, behind a rune of two bytes.

* `placeOf_append` — the place above the excerpt, told from the runes in front of
  the fault;
* `header_counts_bytes` — that place in the report, and exactly when it is the
  place of the message;
* `header_disagrees_with_message` — a report in which it is not.
-/

namespace SymbolAnnotations

open Source

namespace Utf8

theorem size_reverse (runes : List Char) : size runes.reverse = size runes := by
  induction runes with
  | nil => rfl
  | cons rune rest ih =>
      rw [List.reverse_cons, size_append, ih, size_cons, size_cons, size_nil]
      omega

end Utf8

namespace Report

/-- The runes from the last line end up to a place, the last one first, where
`back` is ahead and the runes behind are given with the last one first. -/
def sinceLineEnd (back : List Char) : List Char → List Char
  | [] => []
  | rune :: earlier =>
    if endsLine rune back then [] else rune :: sinceLineEnd (rune :: back) earlier

/-- How many carriage returns end a line alone, among runes that are given with
the last one first and have `back` behind them. -/
def loneReturns (back : List Char) : List Char → Nat
  | [] => 0
  | rune :: earlier =>
    loneReturns (rune :: back) earlier + if rune = '\r' ∧ back.head? ≠ some '\n' then 1 else 0

theorem lineEndsWithin_append (back : List Char) (offset : Nat) (front middle : List Char) :
    lineEndsWithin back offset (front ++ middle) =
      lineEndsWithin (middle ++ back) offset front ++
        lineEndsWithin back (offset + Utf8.size front) middle := by
  induction front generalizing offset with
  | nil => rfl
  | cons rune rest ih =>
      rw [List.cons_append, lineEndsWithin, lineEndsWithin, ih, Utf8.size_cons, List.append_assoc,
        Nat.add_assoc]
      split <;> rfl

/-- The line ends in front of a place, with the rune right in front of it apart. -/
theorem lineEndsWithin_concat (back : List Char) (front : List Char) (rune : Char) :
    lineEndsWithin back 0 (front ++ [rune]) =
      lineEndsWithin (rune :: back) 0 front ++
        if endsLine rune back then [Utf8.size front] else [] := by
  rw [lineEndsWithin_append, Nat.zero_add]
  rfl

/-- Newlines and lone carriage returns count lines. -/
theorem length_lineEndsWithin (back runes : List Char) :
    (lineEndsWithin back 0 runes.reverse).length = runes.count '\n' + loneReturns back runes := by
  induction runes generalizing back with
  | nil => rfl
  | cons rune earlier ih =>
      rw [List.reverse_cons, lineEndsWithin_concat, List.length_append, ih, loneReturns,
        List.count_cons]
      by_cases hnewline : rune = '\n'
      · subst hnewline
        simp [endsLine]
        omega
      · by_cases hreturn : rune = '\r'
        · subst hreturn
          by_cases hpair : back.head? = some '\n'
          · simp [endsLine, hpair]
          · simp [endsLine, hpair]
            omega
        · simp [endsLine, hnewline, hreturn]

/-- The line starts behind the last line end. -/
theorem exists_sinceLineEnd (back runes : List Char) :
    ∃ before, runes.reverse = before ++ (sinceLineEnd back runes).reverse ∧
      ((lineEndsWithin back 0 runes.reverse).getLast?.map (· + 1)).getD 0 = Utf8.size before := by
  induction runes generalizing back with
  | nil => exact ⟨[], rfl, rfl⟩
  | cons rune earlier ih =>
      rw [List.reverse_cons, lineEndsWithin_concat, sinceLineEnd]
      by_cases hend : endsLine rune back = true
      · refine ⟨earlier.reverse ++ [rune], ?_, ?_⟩
        · simp [hend]
        · simp [hend, Utf8.size_append, utf8Size_of_endsLine hend]
      · obtain ⟨before, hbefore, hstart⟩ := ih (rune :: back)
        refine ⟨before, ?_, ?_⟩
        · simp [hend, hbefore]
        · simpa [hend] using hstart

/-- **The place above the excerpt,** told from the runes in front of it. -/
theorem placeOf_append (front back : List Char) :
    placeOf (front ++ back) (Utf8.size front) =
      (1 + front.count '\n' + loneReturns back front.reverse,
        1 + Utf8.size ((sinceLineEnd back front.reverse).filter (· != '\r'))) := by
  obtain ⟨before, hfront, hstart⟩ := exists_sinceLineEnd back front.reverse
  rw [List.reverse_reverse] at hfront hstart
  have hlines := length_lineEndsWithin back front.reverse
  rw [List.reverse_reverse, List.count_reverse] at hlines
  simp only [placeOf, lineEndsBefore_append, hstart, hlines]
  have hinLine : takeBytes (Utf8.size front - Utf8.size before)
      (dropBytes (Utf8.size before) (front ++ back)) =
        (sinceLineEnd back front.reverse).reverse := by
    have hsize : Utf8.size front - Utf8.size before =
        Utf8.size (sinceLineEnd back front.reverse).reverse := by
      conv => lhs; rw [hfront]
      rw [Utf8.size_append, Nat.add_sub_cancel_left]
    have htext : front ++ back =
        before ++ ((sinceLineEnd back front.reverse).reverse ++ back) := by
      conv => lhs; rw [hfront]
      rw [List.append_assoc]
    rw [hsize, htext, dropBytes_size_append, takeBytes_size_append]
  rw [hinLine, List.filter_reverse, Utf8.size_reverse]
  simp only [Prod.mk.injEq]
  omega

/-- Where no carriage return is alone, lines end at newlines. -/
theorem sinceLineEnd_eq_takeWhile {back runes : List Char} (h : loneReturns back runes = 0) :
    sinceLineEnd back runes = runes.takeWhile (· != '\n') := by
  induction runes generalizing back with
  | nil => rfl
  | cons rune earlier ih =>
      rw [loneReturns, Nat.add_eq_zero_iff] at h
      have hreturn : ¬ (rune = '\r' ∧ back.head? ≠ some '\n') := by
        intro halone
        rw [if_pos halone] at h
        exact absurd h.2 (by decide)
      rw [sinceLineEnd, List.takeWhile_cons, ih h.1]
      by_cases hnewline : rune = '\n'
      · simp [endsLine, hnewline]
      · have hstays : endsLine rune back = false := by
          simp only [endsLine, Bool.or_eq_false_iff, beq_eq_false_iff_ne, Bool.and_eq_false_iff]
          refine ⟨hnewline, ?_⟩
          by_cases hmark : rune = '\r'
          · right
            simpa using fun hhead => hreturn ⟨hmark, hhead⟩
          · exact .inl hmark
        simp [hstays, hnewline]

/-- Behind its message, a report shows the place of the fault in the shown text. -/
theorem exists_rows_eq (name : String) {source : ByteArray} {fault : ParseError}
    {line column : Nat}
    (hplace : placeOf (Utf8.lossy source).toList fault.span.offset = (line, column)) :
    ∃ indent below, rows name source fault =
      [fault.kind.code, ""] ++ messageRows fault.message ++
        (indent ++ "╭─[" ++ name ++ ":" ++ toString line ++ ":" ++ toString column ++ "]") ::
          below := by
  let lines := excerpt (Utf8.lossy source).toList fault.span
  let margin := (toString ((lines.getLast?.map (·.number)).getD 0)).length
  refine ⟨times (margin + 2) ' ', lines.flatMap (lineRows margin fault.span fault.kind.label) ++
    [times (margin + 2) ' ' ++ "╰────"] ++ (fault.kind.help?.map ("  help: " ++ ·)).toList, ?_⟩
  simp only [rows, hplace, lines, margin, List.append_assoc, List.cons_append, List.nil_append]

end Report

namespace ParseError

variable {source : ByteArray} {error : ParseError}

/-- A fault stands behind the first runes of its source, which count its place. -/
theorem StandsIn.exists_position_eq (h : error.StandsIn source) :
    ∃ front back, (Utf8.decode source).runes = front ++ back ∧
      error.position = ({} : Position).afterAll front ∧
      error.span.offset = error.position.byteOffset := by
  cases h with
  | @unexpected front back rune expected hrunes => exact ⟨front, rune :: back, hrunes, rfl, rfl⟩
  | truncated | malformed => exact ⟨_, [], (List.append_nil _).symm, rfl, rfl⟩

/-- **The header of a report counts bytes.**  Above the excerpt stand the line and
the column of the fault in the shown text, where a carriage return without its
newline ends a line as well and the column counts the bytes of the line that are no
carriage returns.  They are the line and the column of the message exactly if no
carriage return in front of the fault is alone and the line of the fault has as many
such bytes in front of the fault as runes. -/
theorem header_counts_bytes (name : String) (source : ByteArray) (error : ParseError)
    (h : Store.parse source = .error error) :
    let shown := (Utf8.lossy source).toList
    let front := shown.take error.position.runeOffset
    let back := shown.drop error.position.runeOffset
    let line := error.line + Report.loneReturns back front.reverse
    let column :=
      1 + Utf8.size ((Report.sinceLineEnd back front.reverse).filter (· != '\r'))
    let inLine := front.reverse.takeWhile (· != '\n')
    Utf8.size front = error.span.offset ∧
    (∃ indent below, Report.rows name source error =
      [error.kind.code, ""] ++ Report.messageRows error.message ++
        (indent ++ "╭─[" ++ name ++ ":" ++ toString line ++ ":" ++ toString column ++ "]") ::
          below) ∧
    (line = error.line ∧ column = error.column ↔
      Report.loneReturns back front.reverse = 0 ∧
        Utf8.size (inLine.filter (· != '\r')) = inLine.length) := by
  obtain ⟨first, rest, hrunes, hposition, hoffset⟩ := (standsIn_of_parse h).exists_position_eq
  obtain ⟨more, hshown, -⟩ := Utf8.toList_lossy_append source
  intro shown front back line column inLine
  have hcount : error.position.runeOffset = first.length := by
    rw [hposition, Position.runeOffset_afterAll, Nat.zero_add]
  have htext : shown = first ++ (rest ++ more) := by
    rw [← List.append_assoc, ← hrunes, ← hshown]
  have hfront : front = first := by
    simp only [front, hcount, htext, List.take_left]
  have hbytes : Utf8.size front = error.span.offset := by
    rw [hoffset, hposition, Position.byteOffset_afterAll, Nat.zero_add, hfront]
  have hline : error.line = 1 + front.count '\n' := by
    rw [ParseError.line, hposition, Position.line_afterAll, hfront]
  have hcolumn : error.column = 1 + inLine.length := by
    rw [ParseError.column, hposition, Position.column_afterAll, ← hfront]
  have hplace : Report.placeOf shown error.span.offset = (line, column) := by
    have hsplit : shown = front ++ back := (List.take_append_drop _ shown).symm
    rw [← hbytes, hsplit, Report.placeOf_append, ← hline]
  refine ⟨hbytes, ?_, ?_⟩
  · exact Report.exists_rows_eq name hplace
  · constructor
    · rintro ⟨hsame, hcolumns⟩
      have hlone : Report.loneReturns back front.reverse = 0 := by omega
      refine ⟨hlone, ?_⟩
      simp only [column, hcolumn, Report.sinceLineEnd_eq_takeWhile hlone] at hcolumns
      exact Nat.add_left_cancel hcolumns
    · rintro ⟨hlone, hsize⟩
      refine ⟨by omega, ?_⟩
      simp only [column, hcolumn, Report.sinceLineEnd_eq_takeWhile hlone]
      exact congrArg (1 + ·) hsize

/-- A letter of two bytes in front of the fault. -/
theorem header_counts_two_bytes :
    let source := "é ;".toByteArray
    let error := ParseError.unexpected { rune := ';', position := ⟨1, 3, 3, 2⟩ } .signature
    Store.parse source = .error error ∧
      ∃ indent below, Report.rows "f" source error =
        [error.kind.code, ""] ++ Report.messageRows error.message ++
          (indent ++ "╭─[" ++ "f" ++ ":" ++ toString 1 ++ ":" ++ toString 4 ++ "]") :: below := by
  intro source error
  have hparse : Store.parse source = .error error := by
    apply Store.parse_eq_error
    rw [Utf8.decode_toByteArray]
    decide +kernel
  obtain ⟨-, hrows, -⟩ := header_counts_bytes "f" source error hparse
  rw [Utf8.lossy_toByteArray] at hrows
  exact ⟨hparse, hrows⟩

/-- **A report with two places.**  Behind a letter of two bytes, the header does not
name the column of the message. -/
theorem header_disagrees_with_message :
    ¬ ∀ (name : String) (source : ByteArray) (error : ParseError),
      Store.parse source = .error error →
      ∃ indent below, Report.rows name source error =
        [error.kind.code, ""] ++ Report.messageRows error.message ++
          (indent ++ "╭─[" ++ name ++ ":" ++ toString error.line ++ ":" ++
            toString error.column ++ "]") :: below := by
  intro hall
  let source := "é ;".toByteArray
  let error := ParseError.unexpected { rune := ';', position := ⟨1, 3, 3, 2⟩ } .signature
  have hparse : Store.parse source = .error error := by
    apply Store.parse_eq_error
    rw [Utf8.decode_toByteArray]
    decide +kernel
  have hplace : Report.placeOf (Utf8.lossy source).toList error.span.offset = (1, 4) := by
    rw [Utf8.lossy_toByteArray]
    decide +kernel
  obtain ⟨indent, below, hrows⟩ := hall "f" source error hparse
  obtain ⟨indent', below', hrows'⟩ := Report.exists_rows_eq "f" hplace
  rw [hrows] at hrows'
  have hheader := (List.cons.inj (List.append_cancel_left hrows')).1
  have hend := congrArg (fun row => row.toList.reverse.take 2) hheader
  have hcolumns : toString error.column = "3" ∧ toString 4 = "4" := by decide
  simp [hcolumns] at hend

end ParseError
end SymbolAnnotations
