import SymbolAnnotations.Proofs.Grammar
import SymbolAnnotations.Proofs.RuneClasses

/-!
# Names in symbol paths

A symbol path joins the spellings of its names with dots.  No valid name is
spelled with a dot, and a receiver is never spelled like an identifier, so the
names can be read off a path again.

* `not_mem_pathOf` — runes that are in no path;
* `pathOf_eq_intercalate`, `fullPath_eq_path` — the path of names is their spellings,
  joined;
* `pathOf_injective` — a path determines its names.
-/

namespace SymbolAnnotations

/-- The name is that of an identifier, or of a receiver for one. -/
def ItemName.IsValid : ItemName → Prop
  | plain identifier => Grammar.IsIdentifier identifier.toList
  | receiver typeName => Grammar.IsIdentifier typeName.toList

/-- The name as it is written, a receiver without the white space that may stand between its
parts. -/
def ItemName.written : ItemName → String
  | plain identifier => identifier
  | receiver typeName => "(*" ++ typeName ++ ")"

/-- The names that lead to the leaf, from the outermost on, with dots between them. -/
def Leaf.fullPath (leaf : Leaf) : String :=
  ".".intercalate (leaf.names.map ItemName.written)

theorem SymbolPath.toList_receiver (typeName : String) :
    (receiver typeName).toList = Punctuation.openParen.rune :: Punctuation.star.rune ::
      (typeName.toList ++ [Punctuation.closeParen.rune]) := by
  simp [receiver, Punctuation.rune]

namespace ItemName

theorem written_eq_spelling (name : ItemName) : name.written = name.spelling := by
  cases name <;> rfl

/-- A rune of no identifier, and not one of those that a receiver adds, is in the
spelling of no valid name. -/
theorem not_mem_spelling {name : ItemName} (h : name.IsValid) {rune : Char}
    (hstarts : Rune.startsIdentifier rune = false)
    (hcontinues : Rune.continuesIdentifier rune = false) (hadded : rune ∉ ['(', '*', ')']) :
    rune ∉ name.spelling.toList := by
  have hidentifier : ∀ text, Grammar.IsIdentifier text → rune ∉ text := by
    intro text htext hmem
    cases text with
    | nil => exact htext
    | cons first more =>
        rcases List.mem_cons.1 hmem with hfirst | hmore
        · rw [← hfirst] at htext
          cases hstarts.symm.trans htext.1
        · cases hcontinues.symm.trans (htext.2 rune hmore)
  cases name with
  | plain identifier => exact hidentifier _ h
  | receiver typeName =>
      have hname := hidentifier _ h
      rw [spelling, SymbolPath.toList_receiver]
      simp_all [Punctuation.rune]

/-- No dot is spelled in a valid name. -/
theorem dot_not_mem_spelling {name : ItemName} (h : name.IsValid) :
    '.' ∉ name.spelling.toList :=
  not_mem_spelling h (by decide +kernel) (by decide +kernel) (by decide)

/-- A valid name is not spelled empty. -/
theorem spelling_ne_empty {name : ItemName} (h : name.IsValid) : name.spelling ≠ "" := by
  cases name with
  | plain identifier =>
      intro hempty
      rw [spelling] at hempty
      rw [IsValid, hempty] at h
      exact h
  | receiver typeName => simp [spelling, SymbolPath.receiver]

/-- Valid names with one spelling are one name. -/
theorem eq_of_spelling_eq {name name' : ItemName} (h : name.IsValid) (h' : name'.IsValid)
    (hspelling : name.spelling = name'.spelling) : name = name' := by
  have hparen : ∀ {identifier typeName : String}, Grammar.IsIdentifier identifier.toList →
      identifier ≠ SymbolPath.receiver typeName := by
    intro identifier typeName hidentifier hreceiver
    rw [hreceiver, SymbolPath.toList_receiver] at hidentifier
    cases (Rune.startsIdentifier_mark .openParen).symm.trans hidentifier.1
  cases name with
  | plain identifier =>
      cases name' with
      | plain identifier' => exact congrArg plain hspelling
      | receiver typeName' => exact absurd hspelling (hparen h)
  | receiver typeName =>
      cases name' with
      | plain identifier' => exact absurd hspelling.symm (hparen h')
      | receiver typeName' =>
          have htypeName : typeName = typeName' := by
            simpa [spelling, SymbolPath.receiver] using hspelling
          exact congrArg receiver htypeName

end ItemName

namespace Leaf

/-- A valid name leads to a path that is not empty. -/
theorem pathOf_ne_empty {name : ItemName} (h : name.IsValid) (inner : List ItemName) :
    pathOf (name :: inner) ≠ "" := by
  rw [pathOf, SymbolPath.qualify]
  split
  · exact ItemName.spelling_ne_empty h
  · simp [ItemName.spelling_ne_empty h]

/-- Names inside of a name stand behind a dot. -/
theorem pathOf_cons_cons (name : ItemName) {next : ItemName} (h : next.IsValid)
    (inner : List ItemName) :
    pathOf (name :: next :: inner) = name.spelling ++ "." ++ pathOf (next :: inner) := by
  have hne := pathOf_ne_empty h inner
  rw [pathOf, SymbolPath.qualify, String.isEmpty_eq_false_iff.2 hne]
  rfl

/-- A rune that no name is spelled with, and that is no dot, is in no path. -/
theorem not_mem_pathOf {names : List ItemName} (h : ∀ name ∈ names, name.IsValid) {rune : Char}
    (hstarts : Rune.startsIdentifier rune = false)
    (hcontinues : Rune.continuesIdentifier rune = false) (hadded : rune ∉ ['(', '*', ')'])
    (hdot : rune ≠ '.') : rune ∉ (pathOf names).toList := by
  induction names with
  | nil => simp [pathOf]
  | cons name inner ih =>
      obtain ⟨hname, hinner⟩ := List.forall_mem_cons.1 h
      have hspelling := ItemName.not_mem_spelling hname hstarts hcontinues hadded
      rw [pathOf, SymbolPath.qualify]
      split
      · exact hspelling
      · simp [hspelling, hdot, ih hinner]

/-- A path joins the names that lead to it with dots. -/
theorem pathOf_eq_intercalate {names : List ItemName} (h : ∀ name ∈ names, name.IsValid) :
    pathOf names = ".".intercalate (names.map ItemName.spelling) := by
  induction names with
  | nil => rw [pathOf, List.map_nil, String.intercalate_nil]
  | cons name inner ih =>
      obtain ⟨-, hinner⟩ := List.forall_mem_cons.1 h
      cases inner with
      | nil => simp [pathOf, SymbolPath.qualify]
      | cons next rest =>
          rw [pathOf_cons_cons name (hinner next (List.mem_cons_self ..)), ih hinner]
          simp

/-- The path that is spelled from the inside out is the one that is written from the outside
in. -/
theorem fullPath_eq_path {leaf : Leaf} (h : ∀ name ∈ leaf.names, name.IsValid) :
    leaf.fullPath = leaf.path := by
  rw [fullPath, path, pathOf_eq_intercalate h, funext ItemName.written_eq_spelling]

/-- The names that a path was joined from are found between its dots. -/
theorem splitOn_pathOf {names : List ItemName} (h : ∀ name ∈ names, name.IsValid)
    (hne : names ≠ []) :
    (pathOf names).toList.splitOn '.' = names.map fun name => name.spelling.toList := by
  rw [pathOf_eq_intercalate h, String.toList_intercalate, List.map_map]
  have hdots : ∀ text ∈ names.map (String.toList ∘ ItemName.spelling), '.' ∉ text := by
    intro text htext
    obtain ⟨name, hname, rfl⟩ := List.mem_map.1 htext
    exact ItemName.dot_not_mem_spelling (h name hname)
  exact List.splitOn_intercalate '.' hdots (by simpa using hne)

/-- **A path determines the names** that it was joined from. -/
theorem pathOf_injective {names names' : List ItemName} (h : ∀ name ∈ names, name.IsValid)
    (h' : ∀ name ∈ names', name.IsValid) (hne : names ≠ []) (hne' : names' ≠ [])
    (hpath : pathOf names = pathOf names') : names = names' := by
  have hspellings : names.map (fun name => name.spelling.toList) =
      names'.map fun name => name.spelling.toList := by
    rw [← splitOn_pathOf h hne, ← splitOn_pathOf h' hne', hpath]
  clear hpath hne hne'
  induction names generalizing names' with
  | nil => exact (List.map_eq_nil_iff.1 hspellings.symm).symm
  | cons name inner ih =>
      cases names' with
      | nil => cases hspellings
      | cons name' inner' =>
          obtain ⟨hname, hinner⟩ := List.forall_mem_cons.1 h
          obtain ⟨hname', hinner'⟩ := List.forall_mem_cons.1 h'
          obtain ⟨hfirst, hmore⟩ := List.cons.inj hspellings
          rw [ItemName.eq_of_spelling_eq hname hname' (String.toList_inj.1 hfirst),
            ih hinner hinner' hmore]

end Leaf
end SymbolAnnotations
