/-!
# Sets of runes given by ranges

The character classes of Unicode are published as lists of code point ranges.
A `RuneSet` is such a list, ascending and without overlap, together with a
balanced search tree over it, so that membership costs a handful of
comparisons however long the list is.

* `RangeTree.toList_build` — building a tree loses no range and keeps their
  order;
* `RuneSet.contains_eq_true_iff` — the tree search answers exactly whether
  some range of the list holds the rune.
-/

namespace SymbolAnnotations

/-- The code points from `first` to `last`, both included. -/
structure RuneRange where
  first : Nat
  last : Nat
deriving DecidableEq, Repr

namespace RuneRange

/-- Whether the range holds the code point `n`. -/
def holds (range : RuneRange) (n : Nat) : Prop :=
  range.first ≤ n ∧ n ≤ range.last

instance (range : RuneRange) (n : Nat) : Decidable (range.holds n) :=
  inferInstanceAs (Decidable (_ ∧ _))

/-- Whether every range of the list lies wholly above `bound` and above the
ranges before it. -/
def ascendingAbove (bound : Nat) : List RuneRange → Bool
  | [] => true
  | range :: rest =>
    bound ≤ range.first && range.first ≤ range.last && ascendingAbove (range.last + 1) rest

/-- Whether the ranges are nonempty, disjoint and in ascending order. -/
def ascending (ranges : List RuneRange) : Bool :=
  ascendingAbove 0 ranges

theorem ascendingAbove_cons {bound : Nat} {range : RuneRange} {rest : List RuneRange} :
    ascendingAbove bound (range :: rest) = true ↔
      bound ≤ range.first ∧ range.first ≤ range.last ∧
        ascendingAbove (range.last + 1) rest = true := by
  simp [ascendingAbove, and_assoc]

/-- In an ascending list no range reaches below the bound. -/
theorem le_first_of_ascendingAbove {bound : Nat} {ranges : List RuneRange}
    (h : ascendingAbove bound ranges = true) {range : RuneRange} (mem : range ∈ ranges) :
    bound ≤ range.first := by
  induction ranges generalizing bound with
  | nil => cases mem
  | cons head rest ih =>
    obtain ⟨hbound, hhead, hrest⟩ := ascendingAbove_cons.1 h
    cases mem with
    | head => exact hbound
    | tail _ mem => have := ih hrest mem; omega

/-- An ascending list cut at one of its ranges: that range is not empty, the
ranges before it end below it, and those after it ascend above it. -/
theorem ascendingAbove_append {bound : Nat} {before : List RuneRange} {range : RuneRange}
    {after : List RuneRange} (h : ascendingAbove bound (before ++ range :: after) = true) :
    ascendingAbove bound before = true ∧ range.first ≤ range.last ∧
      ascendingAbove (range.last + 1) after = true ∧ ∀ r ∈ before, r.last < range.first := by
  induction before generalizing bound with
  | nil =>
    obtain ⟨_, hrange, hafter⟩ := ascendingAbove_cons.1 h
    exact ⟨rfl, hrange, hafter, by simp⟩
  | cons head rest ih =>
    obtain ⟨hbound, hhead, hrest⟩ := ascendingAbove_cons.1 h
    obtain ⟨hbefore, hrange, hafter, hbelow⟩ := ih hrest
    refine ⟨ascendingAbove_cons.2 ⟨hbound, hhead, hbefore⟩, hrange, hafter, ?_⟩
    intro r mem
    cases mem with
    | head => exact le_first_of_ascendingAbove hrest (by simp)
    | tail _ mem => exact hbelow r mem

end RuneRange

/-- A binary search tree of ranges. -/
inductive RangeTree where
  | leaf
  | node (left : RangeTree) (range : RuneRange) (right : RangeTree)

namespace RangeTree

/-- The ranges of the tree from left to right. -/
def toList : RangeTree → List RuneRange
  | leaf => []
  | node left range right => left.toList ++ range :: right.toList

/-- A tree of at most `depth` levels over the first ranges of the list, and
the ranges that it has no room for. -/
def build : Nat → List RuneRange → RangeTree × List RuneRange
  | 0, ranges => (leaf, ranges)
  | depth + 1, ranges =>
    match build depth ranges with
    | (left, []) => (left, [])
    | (left, range :: rest) =>
      let (right, rest) := build depth rest
      (node left range right, rest)

/-- Whether the tree's search path for `n` ends in a range that holds it. -/
def contains : RangeTree → Nat → Bool
  | leaf, _ => false
  | node left range right, n =>
    if n < range.first then left.contains n
    else if n ≤ range.last then true
    else right.contains n

/-- Building splits the list: the tree has the first ranges, in order. -/
theorem toList_build (depth : Nat) (ranges : List RuneRange) :
    (build depth ranges).1.toList ++ (build depth ranges).2 = ranges := by
  induction depth generalizing ranges with
  | zero => rfl
  | succ depth ih =>
    have hleft := ih ranges
    rw [build]
    split
    · rename_i left h
      rw [h] at hleft
      exact hleft
    · rename_i left range rest h
      have hright := ih rest
      rw [h] at hleft
      simp only [toList, List.append_assoc, List.cons_append, hright]
      exact hleft

/-- A tree of `depth` levels takes up to `2 ^ depth - 1` ranges. -/
theorem length_build_snd (depth : Nat) (ranges : List RuneRange) :
    (build depth ranges).2.length = ranges.length - (Nat.pow 2 depth - 1) := by
  rw [Nat.pow_eq]
  induction depth generalizing ranges with
  | zero => simp [build]
  | succ depth ih =>
    have hleft := ih ranges
    have hpow := Nat.one_le_two_pow (n := depth)
    rw [build, Nat.pow_succ]
    split
    · rename_i left hbuild
      rw [hbuild] at hleft
      simp only [List.length_nil] at hleft ⊢
      omega
    · rename_i left range rest hbuild
      have hright := ih rest
      rw [hbuild] at hleft
      simp only [List.length_cons] at hleft hright ⊢
      omega

/-- A tree of `depth` levels has room for every list shorter than
`2 ^ depth`. -/
theorem toList_build_fst {depth : Nat} {ranges : List RuneRange}
    (h : ranges.length < Nat.pow 2 depth) : (build depth ranges).1.toList = ranges := by
  have hnil : (build depth ranges).2 = [] :=
    List.eq_nil_of_length_eq_zero (by rw [length_build_snd]; omega)
  have := toList_build depth ranges
  rwa [hnil, List.append_nil] at this

/-- **Search is membership.**  In a tree of ascending ranges the search finds
a code point exactly when some range holds it. -/
theorem contains_eq_true_iff (tree : RangeTree) {bound : Nat}
    (h : RuneRange.ascendingAbove bound tree.toList = true) (n : Nat) :
    tree.contains n = true ↔ ∃ range ∈ tree.toList, range.holds n := by
  induction tree generalizing bound with
  | leaf => simp [contains, toList]
  | node left range right ihLeft ihRight =>
    obtain ⟨hleft, hrange, hright, hbelow⟩ := RuneRange.ascendingAbove_append h
    simp only [contains, toList, List.mem_append, List.mem_cons]
    split
    · rename_i hlt
      rw [ihLeft hleft]
      constructor
      · rintro ⟨r, mem, hr⟩
        exact ⟨r, .inl mem, hr⟩
      · rintro ⟨r, mem | rfl | mem, hr⟩
        · exact ⟨r, mem, hr⟩
        · exact absurd hr.1 (by omega)
        · have := RuneRange.le_first_of_ascendingAbove hright mem
          exact absurd hr.1 (by omega)
    · rename_i hge
      split
      · rename_i hle
        exact ⟨fun _ => ⟨range, .inr (.inl rfl), by omega, hle⟩, fun _ => rfl⟩
      · rename_i hgt
        rw [ihRight hright]
        constructor
        · rintro ⟨r, mem, hr⟩
          exact ⟨r, .inr (.inr mem), hr⟩
        · rintro ⟨r, mem | rfl | mem, hr⟩
          · have := hbelow r mem
            exact absurd hr.2 (by omega)
          · exact absurd hr.2 hgt
          · exact ⟨r, mem, hr⟩

end RangeTree

/-- A set of runes: an ascending list of ranges and the search tree over
it. -/
structure RuneSet where
  ranges : List RuneRange
  ascending : RuneRange.ascending ranges = true
  tree : RangeTree
  toList_tree : tree.toList = ranges

namespace RuneSet

/-- The set of the runes in the ranges; its tree has the fewest levels that
hold them. -/
def ofRanges (ranges : List RuneRange) (h : RuneRange.ascending ranges = true) : RuneSet where
  ranges := ranges
  ascending := h
  tree := (RangeTree.build (ranges.length.log2 + 1) ranges).1
  toList_tree := RangeTree.toList_build_fst Nat.lt_log2_self

/-- Whether the rune belongs to the set. -/
def contains (set : RuneSet) (rune : Char) : Bool :=
  set.tree.contains rune.toNat

instance : Membership Char RuneSet :=
  ⟨fun set rune => ∃ range ∈ set.ranges, range.holds rune.toNat⟩

/-- A rune is in the set exactly when one of the ranges holds it. -/
theorem contains_eq_true_iff {set : RuneSet} {rune : Char} :
    set.contains rune = true ↔ rune ∈ set := by
  have h := set.ascending
  rw [RuneRange.ascending, ← set.toList_tree] at h
  rw [contains, RangeTree.contains_eq_true_iff _ h, set.toList_tree]
  rfl

end RuneSet
end SymbolAnnotations
