import SymbolAnnotations.Proofs.NestedPaths

/-!
# Joining paths

Two paths are joined with a dot between them, unless one of them is empty and
leaves no trace.  This is associative and the empty path is neutral to it, so a
path that is nested segment by segment does not depend on where its segments
are put together: not on the side from which one begins, and not on how many of
them are joined beforehand.

* `join_assoc` — joining is associative;
* `nested_append` — segments one after the other are two paths joined;
* `nested_eq_foldr_qualify` — segments that are not empty may as well be put
  together from the inside out;
* `nested_joins_segments` — all of this about one list of segments.
-/

namespace SymbolAnnotations
namespace SymbolPath

/-- Two paths in one.  An empty one leaves no trace, on whichever side. -/
def join (outer inner : String) : String :=
  if outer.isEmpty then inner else qualify outer inner

theorem join_of_ne_empty {outer : String} (h : outer ≠ "") (inner : String) :
    join outer inner = qualify outer inner :=
  if_neg (by simpa using h)

@[simp] theorem join_empty (outer : String) : join outer "" = outer := by
  by_cases h : outer = ""
  · simp [join, h]
  · simp [join_of_ne_empty h, qualify]

@[simp] theorem empty_join (inner : String) : join "" inner = inner := rfl

theorem qualify_of_ne_empty {inner : String} (h : inner ≠ "") (outer : String) :
    qualify outer inner = outer ++ "." ++ inner :=
  if_neg (by simpa using h)

theorem qualify_ne_empty {outer : String} (h : outer ≠ "") (inner : String) :
    qualify outer inner ≠ "" := by
  by_cases hinner : inner = ""
  · simpa [qualify, hinner] using h
  · simp [qualify_of_ne_empty hinner]

/-- **Joining is associative,** also where some of the paths are empty. -/
theorem join_assoc (outer middle inner : String) :
    join (join outer middle) inner = join outer (join middle inner) := by
  by_cases houter : outer = ""
  · simp [houter]
  · by_cases hmiddle : middle = ""
    · simp [hmiddle]
    · by_cases hinner : inner = ""
      · simp [hinner]
      · rw [join_of_ne_empty houter, join_of_ne_empty hmiddle, join_of_ne_empty houter,
          join_of_ne_empty (qualify_ne_empty houter middle),
          qualify_of_ne_empty (qualify_ne_empty hmiddle inner), qualify_of_ne_empty hinner,
          qualify_of_ne_empty hmiddle, qualify_of_ne_empty hinner]
        simp only [String.append_assoc]

instance : Std.Associative join := ⟨join_assoc⟩

/-- Nesting joins one segment after the other. -/
theorem nested_eq_foldl_join (segments : List String) : nested segments = segments.foldl join "" :=
  rfl

/-- What is nested behind a path may be put together first. -/
theorem foldl_join (path : String) (segments : List String) :
    segments.foldl join path = join path (nested segments) := by
  have hassoc : segments.foldl join (join path "") = join path (segments.foldl join "") :=
    List.foldl_assoc
  rwa [join_empty] at hassoc

theorem nested_cons (segment : String) (segments : List String) :
    nested (segment :: segments) = join segment (nested segments) :=
  foldl_join segment segments

/-- **Nesting turns what follows into what is inside.** -/
theorem nested_append (front back : List String) :
    nested (front ++ back) = join (nested front) (nested back) := by
  rw [nested_eq_foldl_join, List.foldl_append, ← nested_eq_foldl_join, foldl_join]

/-- Nothing is spelled exactly if there is nothing to spell. -/
theorem nested_eq_empty_iff {segments : List String} :
    nested segments = "" ↔ ∀ segment ∈ segments, segment = "" := by
  induction segments with
  | nil => simp [nested]
  | cons segment segments ih =>
      rw [nested_cons, List.forall_mem_cons]
      by_cases hsegment : segment = ""
      · rw [hsegment, empty_join, ih]
        simp
      · rw [join_of_ne_empty hsegment]
        simp [qualify_ne_empty hsegment, hsegment]

/-- **Outside in and inside out** segments that are not empty are put together
alike. -/
theorem nested_eq_foldr_qualify {segments : List String} (h : ∀ segment ∈ segments, segment ≠ "") :
    nested segments = segments.foldr qualify "" := by
  induction segments with
  | nil => rfl
  | cons segment segments ih =>
      obtain ⟨hsegment, hsegments⟩ := List.forall_mem_cons.1 h
      rw [nested_cons, List.foldr_cons, join_of_ne_empty hsegment, ih hsegments]

/-- The path of names puts their spellings together from the inside out. -/
theorem pathOf_eq_foldr_qualify (names : List ItemName) :
    Leaf.pathOf names = (names.map ItemName.spelling).foldr qualify "" := by
  induction names with
  | nil => rfl
  | cons name inner ih => rw [Leaf.pathOf, List.map_cons, List.foldr_cons, ih]

/-- **Nesting is a homomorphism.**  Nested segments are those that are not empty,
joined with dots, and are empty only if there are none.  Segments one after the
other are nested like the two paths that they make up.  Where no segment is
empty, each one qualifies the path of those behind it, which is how a leaf comes
by the path of its names, however deep it is. -/
theorem nested_joins_segments (segments : List String) :
    nested segments = ".".intercalate (segments.filter (!·.isEmpty)) ∧
    (nested segments = "" ↔ ∀ segment ∈ segments, segment = "") ∧
    (∀ more, nested (segments ++ more) = nested [nested segments, nested more]) ∧
    ((∀ segment ∈ segments, segment ≠ "") →
      (∀ outer, outer ≠ "" → nested (outer :: segments) = qualify outer (nested segments)) ∧
      nested segments = segments.foldr qualify "" ∧
      ∀ names : List ItemName, names.map ItemName.spelling = segments →
        Leaf.pathOf names = nested segments) := by
  refine ⟨nested_eq_intercalate segments, nested_eq_empty_iff, ?_, ?_⟩
  · intro more
    rw [nested_append, nested_cons, nested_cons, nested_eq_foldl_join [], List.foldl_nil,
      join_empty]
  · intro hsegments
    have hinside := nested_eq_foldr_qualify hsegments
    refine ⟨?_, hinside, ?_⟩
    · intro outer houter
      rw [nested_cons, join_of_ne_empty houter]
    · intro names hnames
      rw [pathOf_eq_foldr_qualify, hnames, hinside]

end SymbolPath
end SymbolAnnotations
