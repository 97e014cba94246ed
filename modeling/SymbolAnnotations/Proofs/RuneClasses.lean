import SymbolAnnotations.Rune.Class

/-!
# How the rune classes lie to each other

The grammar decides by the class of the next rune, so it matters which classes
have no rune in common: what an identifier consists of is neither white space
nor structural punctuation, and of the punctuation only the newline is white
space.

* `startsName_isSeparator`, `continuesIdentifier_isWhiteSpace` — names and what
  stands between them;
* `startsIdentifier_mark`, `continuesIdentifier_mark`, `isWhiteSpace_mark` — the
  classes of structural punctuation;
* `isInlineWhiteSpace_ne_mark`, `isTerminator_isInlineWhiteSpace`,
  `isInlineWhiteSpace_of_isSeparator` — white space on a line and what ends it.
-/

namespace SymbolAnnotations

/-- Sets whose ranges lie apart have no rune in common. -/
theorem RuneSet.contains_eq_false_of_apart {set other : RuneSet} {rune : Char}
    (hapart : ∀ range ∈ set.ranges, ∀ range' ∈ other.ranges,
      range.last < range'.first ∨ range'.last < range.first)
    (h : set.contains rune = true) : other.contains rune = false := by
  rw [Bool.eq_false_iff]
  intro hother
  obtain ⟨range, hmem, hholds⟩ := contains_eq_true_iff.1 h
  obtain ⟨range', hmem', hholds'⟩ := contains_eq_true_iff.1 hother
  have := hapart range hmem range' hmem'
  simp only [RuneRange.holds] at hholds hholds'
  omega

@[simp] theorem Punctuation.rune_eq_rune_iff {a b : Punctuation} : a.rune = b.rune ↔ a = b :=
  ⟨rune_injective, congrArg rune⟩

namespace Rune

/-- No letter is white space. -/
theorem isLetter_isWhiteSpace {rune : Char} (h : isLetter rune = true) :
    isWhiteSpace rune = false :=
  RuneSet.contains_eq_false_of_apart (by decide +kernel) h

/-- No digit is white space. -/
theorem isDigit_isWhiteSpace {rune : Char} (h : isDigit rune = true) :
    isWhiteSpace rune = false :=
  RuneSet.contains_eq_false_of_apart (by decide +kernel) h

/-- No identifier begins with white space. -/
theorem startsIdentifier_isWhiteSpace {rune : Char} (h : startsIdentifier rune = true) :
    isWhiteSpace rune = false := by
  rw [startsIdentifier, Bool.or_eq_true, beq_iff_eq] at h
  rcases h with rfl | h
  · decide +kernel
  · exact isLetter_isWhiteSpace h

/-- No identifier goes on with white space. -/
theorem continuesIdentifier_isWhiteSpace {rune : Char}
    (h : continuesIdentifier rune = true) : isWhiteSpace rune = false := by
  rw [continuesIdentifier, Bool.or_eq_true] at h
  rcases h with h | h
  · exact isLetter_isWhiteSpace h
  · exact isDigit_isWhiteSpace h

/-- Structural punctuation begins no identifier. -/
@[simp] theorem startsIdentifier_mark (mark : Punctuation) :
    startsIdentifier mark.rune = false := by
  cases mark <;> decide +kernel

/-- Structural punctuation ends an identifier. -/
@[simp] theorem continuesIdentifier_mark (mark : Punctuation) :
    continuesIdentifier mark.rune = false := by
  cases mark <;> decide +kernel

/-- Of the structural punctuation only the newline is white space. -/
@[simp] theorem isWhiteSpace_mark (mark : Punctuation) :
    isWhiteSpace mark.rune = decide (mark = .newline) := by
  cases mark <;> decide +kernel

theorem isWhiteSpace_of_isInlineWhiteSpace {rune : Char} (h : isInlineWhiteSpace rune = true) :
    isWhiteSpace rune = true :=
  (Bool.and_eq_true_iff.1 h).2

theorem isSeparator_of_isWhiteSpace {rune : Char} (h : isWhiteSpace rune = true) :
    isSeparator rune = true := by
  rw [isSeparator, h, Bool.true_or]

/-- White space on a line is no structural punctuation. -/
theorem isInlineWhiteSpace_ne_mark {rune : Char} (h : isInlineWhiteSpace rune = true)
    (mark : Punctuation) : rune ≠ mark.rune := by
  rintro rfl
  rw [isInlineWhiteSpace, isWhiteSpace_mark, Bool.and_eq_true, decide_eq_true_eq,
    bne_iff_ne] at h
  exact h.1 (congrArg Punctuation.rune h.2)

/-- White space on a line ends no item. -/
theorem isInlineWhiteSpace_isTerminator {rune : Char} (h : isInlineWhiteSpace rune = true) :
    isTerminator rune = false := by
  simp [isTerminator, isInlineWhiteSpace_ne_mark h]

/-- What ends an item is not white space on a line. -/
theorem isTerminator_isInlineWhiteSpace {rune : Char} (h : isTerminator rune = true) :
    isInlineWhiteSpace rune = false := by
  rw [Bool.eq_false_iff]
  intro hblank
  rw [isInlineWhiteSpace_isTerminator hblank] at h
  cases h

/-- What ends an item may stand between items. -/
theorem isSeparator_of_isTerminator {rune : Char} (h : isTerminator rune = true) :
    isSeparator rune = true := by
  simp only [isTerminator, Bool.or_eq_true, beq_iff_eq] at h
  rcases h with rfl | rfl
  · simp [isSeparator]
  · simp [isSeparator]

/-- What may stand between items and ends none is white space on a line. -/
theorem isInlineWhiteSpace_of_isSeparator {rune : Char} (h : isSeparator rune = true)
    (hgoesOn : isTerminator rune = false) : isInlineWhiteSpace rune = true := by
  simp only [isTerminator, Bool.or_eq_false_iff, beq_eq_false_iff_ne] at hgoesOn
  simpa [isSeparator, isInlineWhiteSpace, hgoesOn] using h

/-- No identifier goes on with a rune that ends an item. -/
theorem isTerminator_continuesIdentifier {rune : Char} (h : isTerminator rune = true) :
    continuesIdentifier rune = false := by
  simp only [isTerminator, Bool.or_eq_true, beq_iff_eq] at h
  rcases h with rfl | rfl
  · exact continuesIdentifier_mark .semicolon
  · exact continuesIdentifier_mark .newline

/-- No identifier goes on with white space. -/
theorem isWhiteSpace_continuesIdentifier {rune : Char} (h : isWhiteSpace rune = true) :
    continuesIdentifier rune = false := by
  rw [Bool.eq_false_iff]
  intro hcontinues
  rw [continuesIdentifier_isWhiteSpace hcontinues] at h
  cases h

/-- The runes between items begin no name. -/
theorem startsName_isSeparator {rune : Char} (h : startsName rune = true) :
    isSeparator rune = false := by
  rw [startsName, Bool.or_eq_true, beq_iff_eq] at h
  rcases h with rfl | h
  · decide +kernel
  · have hmark : rune ≠ Punctuation.semicolon.rune := by
      intro hrune
      simp [hrune] at h
    simp [isSeparator, startsIdentifier_isWhiteSpace h, hmark]

end Rune
end SymbolAnnotations
