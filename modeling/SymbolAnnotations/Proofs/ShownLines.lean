import SymbolAnnotations.Proofs.ValidPrefix
import SymbolAnnotations.Report

/-!
# The lines of a shown text

A report finds the line of a fault by the line ends in front of it, and cuts out
the lines to show at line ends too.  A line end is one byte long where it ends,
so all of these cuts fall between two runes, and the lines that are shown leave
nothing out.

* `takeBytes_size_append`, `dropBytes_size_append` — a cut between two runes;
* `lineEndsFrom_cons`, `lineEndsFrom_append` — whether a rune ends a line is told
  by the rune behind it;
* `lineEndsBefore_append` — the line ends in front of a place;
* `exists_line_of_offset` — the lines shown for a place hold it.
-/

namespace SymbolAnnotations
namespace Report

/-- A cut between two runes counts the runes in front of it. -/
theorem runesWithin_size_append (taken : Nat) (front back : List Char) :
    runesWithin (Utf8.size front) taken (front ++ back) = taken + front.length := by
  induction front generalizing taken with
  | nil => cases back <;> simp [runesWithin]
  | cons rune rest ih =>
      have hsize := rune.utf8Size_pos
      rw [List.cons_append, runesWithin, Utf8.size_cons, if_neg (by omega),
        Nat.add_sub_cancel_left, ih, List.length_cons]
      omega

@[simp] theorem takeBytes_size_append (front back : List Char) :
    takeBytes (Utf8.size front) (front ++ back) = front := by
  rw [takeBytes, runesWithin_size_append, Nat.zero_add, List.take_left]

@[simp] theorem dropBytes_size_append (front back : List Char) :
    dropBytes (Utf8.size front) (front ++ back) = back := by
  rw [dropBytes, runesWithin_size_append, Nat.zero_add, List.drop_left]

theorem runesWithin_eq_add (count taken : Nat) (runes : List Char) :
    runesWithin count taken runes = taken + runesWithin count 0 runes := by
  induction runes generalizing count taken with
  | nil => rfl
  | cons rune rest ih =>
      rw [runesWithin, runesWithin]
      split
      · rfl
      · rw [ih, ih _ (0 + 1)]
        omega

/-- A cut leaves at least so many bytes in front of it, if there are so many. -/
theorem le_size_takeBytes {count : Nat} {runes : List Char} (h : count ≤ Utf8.size runes) :
    count ≤ Utf8.size (takeBytes count runes) := by
  induction runes generalizing count with
  | nil => exact h
  | cons rune rest ih =>
      rw [takeBytes, runesWithin]
      split
      · omega
      · rw [Utf8.size_cons] at h
        have hrest := @ih (count - rune.utf8Size) (by omega)
        rw [runesWithin_eq_add, Nat.zero_add, Nat.add_comm, List.take_succ_cons, Utf8.size_cons]
        rw [takeBytes] at hrest
        omega

/-- Whether a line ends behind a rune that stands in front of these.  A carriage
return leaves that to its newline. -/
def endsLine (rune : Char) (rest : List Char) : Bool :=
  rune == '\n' || rune == '\r' && rest.head? != some '\n'

theorem utf8Size_of_endsLine {rune : Char} {rest : List Char} (h : endsLine rune rest = true) :
    rune.utf8Size = 1 := by
  rw [endsLine, Bool.or_eq_true, Bool.and_eq_true, beq_iff_eq, beq_iff_eq] at h
  rcases h with rfl | ⟨rfl, -⟩ <;> decide

/-- **Line ends rune by rune.** -/
theorem lineEndsFrom_cons (offset : Nat) (found : List Nat) (rune : Char) (rest : List Char) :
    lineEndsFrom offset found (rune :: rest) =
      lineEndsFrom (offset + rune.utf8Size)
        (if endsLine rune rest then offset :: found else found) rest := by
  by_cases hpair : rune = '\r' ∧ rest.head? = some '\n'
  · obtain ⟨rfl, hhead⟩ := hpair
    obtain ⟨more, rfl⟩ := List.head?_eq_some_iff.1 hhead
    have hreturn : ('\r' : Char).utf8Size = 1 := by decide
    have hstays : endsLine '\r' ('\n' :: more) = false := rfl
    simp [lineEndsFrom, hreturn, hstays]
  · have hother : ∀ more, rune = '\r' → rest = '\n' :: more → False := by
      rintro more rfl rfl
      exact hpair ⟨rfl, rfl⟩
    rw [lineEndsFrom.eq_3 offset found rune rest hother]
    by_cases hend : endsLine rune rest = true
    · have hmark : rune = '\r' ∨ rune = '\n' := by
        simp only [endsLine, Bool.or_eq_true, Bool.and_eq_true, beq_iff_eq] at hend
        tauto
      rw [if_pos hmark, if_pos hend, utf8Size_of_endsLine hend]
    · have hmark : ¬ (rune = '\r' ∨ rune = '\n') := by
        simp only [endsLine, Bool.or_eq_true, Bool.and_eq_true, beq_iff_eq, bne_iff_ne] at hend
        tauto
      rw [if_neg hmark, if_neg hend]

/-- The line ends among the runes in front of these, the first of which stands
at a byte offset. -/
def lineEndsWithin (back : List Char) (offset : Nat) : List Char → List Nat
  | [] => []
  | rune :: rest =>
    let more := lineEndsWithin back (offset + rune.utf8Size) rest
    if endsLine rune (rest ++ back) then offset :: more else more

theorem lineEndsFrom_append (offset : Nat) (found : List Nat) (front back : List Char) :
    lineEndsFrom offset found (front ++ back) =
      found.reverse ++ lineEndsWithin back offset front ++
        lineEndsFrom (offset + Utf8.size front) [] back := by
  induction front generalizing offset found with
  | nil =>
      rw [List.nil_append, lineEndsWithin, List.append_nil, Utf8.size_nil, Nat.add_zero]
      induction back generalizing offset found with
      | nil => simp [lineEndsFrom]
      | cons rune rest ih =>
          rw [lineEndsFrom_cons, lineEndsFrom_cons offset [], ih]
          split
          · rw [ih _ [offset], List.reverse_cons, List.reverse_singleton, List.append_assoc]
          · rfl
  | cons rune rest ih =>
      rw [List.cons_append, lineEndsFrom_cons, ih, lineEndsWithin, Utf8.size_cons, Nat.add_assoc]
      split <;> simp

/-- Every line end stands at a rune, which is one byte long. -/
theorem exists_of_mem_lineEndsWithin {back front : List Char} {offset lineEnd : Nat}
    (h : lineEnd ∈ lineEndsWithin back offset front) :
    ∃ before rune after, front = before ++ rune :: after ∧
      lineEnd = offset + Utf8.size before ∧ endsLine rune (after ++ back) = true := by
  induction front generalizing offset with
  | nil => cases h
  | cons first rest ih =>
      have hcases : (lineEnd = offset ∧ endsLine first (rest ++ back) = true) ∨
          lineEnd ∈ lineEndsWithin back (offset + first.utf8Size) rest := by
        rw [lineEndsWithin] at h
        split at h
        · rename_i hend
          rcases List.mem_cons.1 h with hfirst | hmore
          · exact .inl ⟨hfirst, hend⟩
          · exact .inr hmore
        · exact .inr h
      rcases hcases with ⟨rfl, hend⟩ | hmore
      · exact ⟨[], first, rest, rfl, rfl, hend⟩
      · obtain ⟨before, rune, after, rfl, rfl, hend⟩ := ih hmore
        refine ⟨first :: before, rune, after, rfl, ?_, hend⟩
        rw [Utf8.size_cons, Nat.add_assoc]

theorem lineEnds_eq (text : List Char) : lineEnds text = lineEndsWithin [] 0 text := by
  have hall := lineEndsFrom_append 0 [] text []
  rw [List.append_nil] at hall
  rw [lineEnds, hall]
  simp [lineEndsFrom]

/-- **The line ends in front of a place** are those of the runes in front of it. -/
theorem lineEndsBefore_append (front back : List Char) :
    lineEndsBefore (front ++ back) (Utf8.size front) = lineEndsWithin back 0 front := by
  have hback : ∀ lineEnd ∈ lineEndsFrom (Utf8.size front) [] back, Utf8.size front ≤ lineEnd := by
    intro lineEnd hmem
    have hall := lineEndsFrom_append (Utf8.size front) [] back []
    rw [List.append_nil] at hall
    rw [hall] at hmem
    simp only [List.reverse_nil, List.nil_append, lineEndsFrom, List.append_nil] at hmem
    obtain ⟨before, _, _, -, rfl, -⟩ := exists_of_mem_lineEndsWithin hmem
    exact Nat.le_add_right _ _
  have hfront : ∀ lineEnd ∈ lineEndsWithin back 0 front, lineEnd < Utf8.size front := by
    intro lineEnd hmem
    obtain ⟨before, rune, after, rfl, rfl, -⟩ := exists_of_mem_lineEndsWithin hmem
    have hrune := rune.utf8Size_pos
    rw [Utf8.size_append, Utf8.size_cons]
    omega
  rw [lineEndsBefore, lineEnds, lineEndsFrom_append, List.reverse_nil, List.nil_append,
    Nat.zero_add, List.filter_append, List.filter_eq_self.2 (by simpa using hfront),
    List.filter_eq_nil_iff.2 (by simpa using hback), List.append_nil]

/-- Behind a line end stands the next line. -/
theorem exists_cut_of_mem_lineEnds {text : List Char} {lineEnd : Nat}
    (h : lineEnd ∈ lineEnds text) :
    ∃ above below, text = above ++ below ∧ lineEnd + 1 = Utf8.size above := by
  rw [lineEnds_eq] at h
  obtain ⟨before, rune, below, rfl, rfl, hend⟩ := exists_of_mem_lineEndsWithin h
  refine ⟨before ++ [rune], below, by simp, ?_⟩
  rw [Utf8.size_append, Utf8.size_cons, Utf8.size_nil, utf8Size_of_endsLine hend, Nat.zero_add]

/-- Lines leave nothing out. -/
theorem exists_line_of_linesFrom {number offset place : Nat} {current runes : List Char}
    (hoffset : offset ≤ place)
    (hplace : place < offset + (Utf8.size current + Utf8.size runes)) :
    ∃ line ∈ linesFrom number offset current runes,
      line.offset ≤ place ∧ place < line.offset + line.length := by
  fun_induction linesFrom number offset current runes with
  | case1 number offset => simp only [Utf8.size_nil] at hplace; omega
  | case2 number offset last rest =>
      exact ⟨_, List.mem_singleton_self _, hoffset, by simpa using hplace⟩
  | case3 number offset current rest length ih | case4 number offset current rest length ih =>
      by_cases hline : place < offset + length
      · exact ⟨_, List.mem_cons_self, hoffset, hline⟩
      · obtain ⟨line, hmem, hwithin⟩ := ih (by omega) (by
          have hreturn : ('\r' : Char).utf8Size = 1 := by decide
          have hnewline : ('\n' : Char).utf8Size = 1 := by decide
          simp only [Utf8.size_cons, Utf8.size_nil, hreturn, hnewline] at hplace ⊢
          omega)
        exact ⟨line, List.mem_cons_of_mem _ hmem, hwithin⟩
  | case5 number offset current rune rest _ _ ih =>
      refine ih hoffset ?_
      simp only [Utf8.size_cons] at hplace ⊢
      omega

/-- **The lines shown for a place hold it,** if the place is in the text. -/
theorem exists_line_of_offset {text : List Char} {span : Span} (hlength : 0 < span.length)
    (hspan : span.offset + span.length ≤ Utf8.size text) :
    ∃ line ∈ excerpt text span,
      line.offset ≤ span.offset ∧ span.offset < line.offset + line.length := by
  obtain ⟨above, shown, htext, habove, hstart⟩ : ∃ above shown, text = above ++ shown ∧
      Utf8.size above ≤ span.offset ∧
      (((lineEndsBefore text span.offset).dropLast.getLast?.map (· + 1)).getD 0) =
        Utf8.size above := by
    cases hlast : (lineEndsBefore text span.offset).dropLast.getLast? with
    | none => exact ⟨[], text, rfl, Nat.zero_le _, rfl⟩
    | some lineEnd =>
        have hmem := List.dropLast_subset _ (List.mem_of_getLast? hlast)
        rw [lineEndsBefore, List.mem_filter, decide_eq_true_eq] at hmem
        obtain ⟨above, shown, htext, hsize⟩ := exists_cut_of_mem_lineEnds hmem.1
        exact ⟨above, shown, htext, hsize ▸ hmem.2, hsize⟩
  have hshown : span.offset + span.length ≤ Utf8.size above + Utf8.size shown := by
    rwa [htext, Utf8.size_append] at hspan
  simp only [excerpt, hstart]
  rw [htext, dropBytes_size_append, ← htext]
  apply exists_line_of_linesFrom habove
  rw [Utf8.size_nil, Nat.zero_add]
  split
  · -- The text is cut at a line end behind the place.
    rename_i lineEnd hsecond
    have hmem := List.mem_of_getElem? hsecond
    rw [List.mem_filter, decide_eq_true_eq] at hmem
    obtain ⟨upper, lower, hcut, hsize⟩ := exists_cut_of_mem_lineEnds hmem.1
    have htotal := congrArg Utf8.size (htext.symm.trans hcut)
    rw [Utf8.size_append, Utf8.size_append] at htotal
    have hcount := @le_size_takeBytes (lineEnd + 1 - Utf8.size above) shown (by omega)
    omega
  · omega

end Report
end SymbolAnnotations
