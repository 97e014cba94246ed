import SymbolAnnotations.Rune.Class

/-!
# The ranges of a rune class

A class can be listed as ranges of code points, between any two bounds.  The
ranges are built from the lowest code point up, and each code point of the
class either extends the range before it or starts a new one.

* `covered_rangesWithin` — the ranges hold exactly the code points of the class
  between the bounds.
-/

namespace SymbolAnnotations
namespace RuneClass

/-- Whether the code point is a rune of the class.  Surrogates are no runes. -/
def containsCodePoint (kind : RuneClass) (n : Nat) : Bool :=
  n.isValidChar && kind.contains (Char.ofNat n)

/-- Adds a code point to ranges that all end below it, the highest first. -/
def extend (n : Nat) : List RuneRange → List RuneRange
  | [] => [⟨n, n⟩]
  | run :: lower =>
    if run.last + 1 = n then ⟨run.first, n⟩ :: lower else ⟨n, n⟩ :: run :: lower

/-- Adds to `runs`, the highest first, what the class has among the `count`
code points from `n` on. -/
def collect (kind : RuneClass) : (count n : Nat) → (runs : List RuneRange) → List RuneRange
  | 0, _, runs => runs
  | count + 1, n, runs =>
    kind.collect count (n + 1) (if kind.containsCodePoint n then extend n runs else runs)

/-- The code points of the class from `first` to `last`, as maximal ranges in
ascending order. -/
def rangesWithin (kind : RuneClass) (first last : Nat) : List RuneRange :=
  (kind.collect (last + 1 - first) first []).reverse

/-- Whether some of the ranges holds the code point. -/
def covered (runs : List RuneRange) (k : Nat) : Prop :=
  ∃ run ∈ runs, run.holds k

theorem covered_cons {run : RuneRange} {runs : List RuneRange} {k : Nat} :
    covered (run :: runs) k ↔ run.holds k ∨ covered runs k := by
  simp [covered]

/-- Adding a code point covers it, and nothing else that was not covered. -/
theorem covered_extend {n k : Nat} {runs : List RuneRange}
    (h : ∀ run ∈ runs, run.first ≤ run.last) :
    covered (extend n runs) k ↔ k = n ∨ covered runs k := by
  have hpoint : (RuneRange.mk n n).holds k ↔ k = n := by
    simp only [RuneRange.holds]
    omega
  cases runs with
  | nil => simp [extend, hpoint, covered]
  | cons run lower =>
    have := h run List.mem_cons_self
    simp only [extend]
    split
    · rw [covered_cons, covered_cons, ← or_assoc]
      refine or_congr_left ?_
      simp only [RuneRange.holds]
      omega
    · rw [covered_cons, hpoint]

theorem first_le_last_extend {n : Nat} {runs : List RuneRange}
    (h : ∀ run ∈ runs, run.first ≤ run.last) :
    ∀ run ∈ extend n runs, run.first ≤ run.last := by
  cases runs with
  | nil => simp [extend]
  | cons run lower =>
    have := h run List.mem_cons_self
    intro found hfound
    simp only [extend] at hfound
    split at hfound
    · rcases List.mem_cons.1 hfound with rfl | hfound
      · simp only
        omega
      · exact h found (List.mem_cons_of_mem _ hfound)
    · rcases List.mem_cons.1 hfound with rfl | hfound
      · exact Nat.le_refl n
      · exact h found hfound

theorem covered_collect (kind : RuneClass) (count n : Nat) {runs : List RuneRange} {k : Nat}
    (h : ∀ run ∈ runs, run.first ≤ run.last) :
    covered (kind.collect count n runs) k ↔
      covered runs k ∨ (n ≤ k ∧ k < n + count) ∧ kind.containsCodePoint k = true := by
  induction count generalizing n runs with
  | zero =>
    rw [collect]
    exact ⟨.inl, fun h => h.resolve_right fun h => by omega⟩
  | succ count ih =>
    have hrest : k ≠ n → ((n ≤ k ∧ k < n + (count + 1)) ↔ (n + 1 ≤ k ∧ k < n + 1 + count)) := by
      omega
    rw [collect]
    split
    · rename_i hn
      rw [ih (n + 1) (first_le_last_extend h), covered_extend h]
      by_cases hk : k = n
      · subst hk
        simp [hn]
      · rw [hrest hk]
        simp [hk]
    · rename_i hn
      rw [ih (n + 1) h]
      by_cases hk : k = n
      · subst hk
        simp [hn]
      · rw [hrest hk]

/-- **Ranges are exact.**  They hold the code points of the class between the
bounds, and no others. -/
theorem covered_rangesWithin (kind : RuneClass) (first last k : Nat) :
    covered (kind.rangesWithin first last) k ↔
      (first ≤ k ∧ k ≤ last) ∧ kind.containsCodePoint k = true := by
  have hreverse (runs : List RuneRange) : covered runs.reverse k ↔ covered runs k := by
    simp [covered]
  have hbounds : (first ≤ k ∧ k < first + (last + 1 - first)) ↔ (first ≤ k ∧ k ≤ last) := by
    omega
  rw [rangesWithin, hreverse, covered_collect kind _ _ (by simp), hbounds]
  simp [covered]

end RuneClass
end SymbolAnnotations
