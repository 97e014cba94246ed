import SymbolAnnotations.Proofs.StoreImage

/-!
# Keys as nested paths

A store keeps a leaf under the path that its names spell from the inside out:
each name qualifies what is inside it.  Who looks a signature up spells the path
from the outside in, segment by segment.  Both join the same spellings with
dots, because no valid name is spelled empty or with a dot.

* `SymbolPath.nested_eq_intercalate` — nesting joins the segments that are not
  empty;
* `Leaf.nested_map_spelling` — nesting the spellings of names gives their path;
* `Leaf.isMethodKey_pathOf_iff` — which paths are those of methods;
* `keys_are_nested_paths` — the keys of a source that is parsed.
-/

namespace SymbolAnnotations

namespace SymbolPath

/-- Nesting goes on behind a path that is spelled already. -/
theorem foldl_nested (segments : List String) (path : String) :
    segments.foldl (fun path segment => if path.isEmpty then segment else qualify path segment)
        path =
      ".".intercalate ((path :: segments).filter (!·.isEmpty)) := by
  induction segments generalizing path with
  | nil => by_cases hpath : path = "" <;> simp [hpath]
  | cons segment more ih =>
      rw [List.foldl_cons, ih]
      by_cases hpath : path = ""
      · simp [hpath]
      · by_cases hsegment : segment = ""
        · simp [hpath, hsegment, qualify]
        · simp [hpath, hsegment, qualify, String.append_assoc]

/-- **Nesting joins with dots** all segments that are not empty. -/
theorem nested_eq_intercalate (segments : List String) :
    nested segments = ".".intercalate (segments.filter (!·.isEmpty)) := by
  rw [nested, foldl_nested]
  simp

/-- What occurs is a stretch of the runes. -/
theorem occursIn_eq_true_iff {part runes : List Char} :
    occursIn part runes = true ↔ part <:+: runes := by
  induction runes with
  | nil => simp [occursIn]
  | cons rune rest ih =>
      rw [occursIn, Bool.or_eq_true, List.isPrefixOf_iff_prefix, ih, List.infix_cons_iff]

end SymbolPath

namespace Leaf

variable {names : List ItemName}

/-- **Inside out and outside in** the same path is spelled. -/
theorem nested_map_spelling (h : ∀ name ∈ names, name.IsValid) :
    SymbolPath.nested (names.map ItemName.spelling) = pathOf names := by
  have hsegments : ∀ segment ∈ names.map ItemName.spelling, (!segment.isEmpty) = true := by
    intro segment hsegment
    obtain ⟨name, hname, rfl⟩ := List.mem_map.1 hsegment
    rw [String.isEmpty_eq_false_iff.2 (ItemName.spelling_ne_empty (h name hname)), Bool.not_false]
  rw [SymbolPath.nested_eq_intercalate, List.filter_eq_self.2 hsegments, pathOf_eq_intercalate h]

/-- Only a receiver is spelled with a parenthesis in front. -/
theorem isPrefixOf_spelling {name : ItemName} (h : name.IsValid) {behind : List Char} :
    ['(', '*'].isPrefixOf (name.spelling.toList ++ behind) = true ↔
      ∃ typeName, name = .receiver typeName := by
  cases name with
  | plain identifier =>
      have hidentifier : Grammar.IsIdentifier identifier.toList := h
      rw [ItemName.spelling]
      cases htext : identifier.toList with
      | nil =>
          rw [htext] at hidentifier
          exact hidentifier.elim
      | cons first more =>
          rw [htext] at hidentifier
          have hparen : first ≠ '(' := by
            rintro rfl
            cases (Rune.startsIdentifier_mark .openParen).symm.trans hidentifier.1
          simp [hparen.symm]
  | receiver typeName => simp [ItemName.spelling, SymbolPath.toList_receiver, Punctuation.rune]

/-- **The paths of methods** are those of something inside a receiver that is the
outermost name. -/
theorem isMethodKey_pathOf_iff (h : ∀ name ∈ names, name.IsValid) :
    SymbolPath.isMethodKey (pathOf names) = true ↔
      ∃ typeName next inner, names = .receiver typeName :: next :: inner := by
  rw [SymbolPath.isMethodKey, Bool.and_eq_true, SymbolPath.occursIn_eq_true_iff]
  cases names with
  | nil => simp [pathOf]
  | cons name inner =>
      obtain ⟨hname, hinner⟩ := List.forall_mem_cons.1 h
      cases inner with
      | nil =>
          have hpath : pathOf [name] = name.spelling := by simp [pathOf, SymbolPath.qualify]
          constructor
          · rintro ⟨-, hoccurs⟩
            rw [hpath] at hoccurs
            exact absurd (hoccurs.subset (by simp)) (ItemName.dot_not_mem_spelling hname)
          · simp
      | cons next more =>
          have hpath := pathOf_cons_cons name (hinner next (List.mem_cons_self ..)) more
          rw [hpath, String.toList_append, String.toList_append, List.append_assoc,
            isPrefixOf_spelling hname]
          constructor
          · rintro ⟨⟨typeName, rfl⟩, -⟩
            exact ⟨typeName, next, more, rfl⟩
          · rintro ⟨typeName, _, _, hnames⟩
            obtain ⟨rfl, -⟩ := List.cons.inj hnames
            refine ⟨⟨typeName, rfl⟩, ?_⟩
            refine ⟨'(' :: '*' :: typeName.toList, (pathOf (next :: more)).toList, ?_⟩
            simp [ItemName.spelling, SymbolPath.toList_receiver, Punctuation.rune]

end Leaf

namespace Grammar

/-- The runes of a source have no other leaves than those that are read. -/
theorem file_iff_of_file {runes : List Char} {leaves other : List Leaf} (h : File runes leaves) :
    File runes other ↔ other = leaves := by
  constructor
  · intro hother
    have hread := Source.leavesFrom_of_file h {}
    rw [Source.leavesFrom_of_file hother {}] at hread
    exact Except.ok.inj hread
  · rintro rfl
    exact h

end Grammar

namespace Store

/-- A leaf whose path no later leaf repeats is found. -/
theorem get?_ofLeaves_of_last (before : List Leaf) {later : List Leaf} {leaf : Leaf}
    (hlast : ∀ other ∈ later, other.path ≠ leaf.path) :
    (ofLeaves (before ++ leaf :: later)).get? leaf.path = some leaf.signature := by
  have hlater : later.reverse.find? (·.path == leaf.path) = none := by
    rw [List.find?_eq_none]
    intro other hother
    simpa using hlast other (List.mem_reverse.1 hother)
  rw [get?_ofLeaves, List.reverse_append, List.reverse_cons, List.find?_append, List.find?_append,
    hlater]
  simp

/-- **Keys are nested paths.**  A source that is parsed has one list of leaves.
Each leaf has a key that is the nested path of its names, all of them valid, and
between the dots of the key stand exactly these names; so leaves share a key
exactly if they have the same names.  Such a key is that of a method exactly if
the outermost name is a receiver with something inside.  A leaf whose key no
later leaf repeats is found by its key and by its nested names, and a method
right inside of its receiver also as a method. -/
theorem keys_are_nested_paths (source : ByteArray) (store : Store)
    (h : parse source = .ok store) :
    ∃ (text : String) (leaves : List Leaf), source = text.toByteArray ∧
      (∀ other, Grammar.File text.toList other ↔ other = leaves) ∧
      (∀ before leaf later, leaves = before ++ leaf :: later →
        let segments := leaf.names.map ItemName.spelling
        leaf.names ≠ [] ∧ (∀ name ∈ leaf.names, name.IsValid) ∧
        leaf.path = SymbolPath.nested segments ∧
        leaf.path.toList.splitOn '.' = segments.map String.toList ∧
        (SymbolPath.isMethodKey leaf.path = true ↔
          ∃ typeName next inner, leaf.names = .receiver typeName :: next :: inner) ∧
        ((∀ other ∈ later, other.path ≠ leaf.path) →
          store.get? leaf.path = some leaf.signature ∧
          store.nested? segments = some leaf.signature ∧
          ∀ typeName second, leaf.names = [.receiver typeName, second] →
            store.method? typeName second.spelling = some leaf.signature)) ∧
      ∀ leaf ∈ leaves, ∀ other ∈ leaves, leaf.path = other.path ↔ leaf.names = other.names := by
  obtain ⟨text, rfl, leaves, hfile, rfl⟩ := parse_eq_ok_iff.1 h
  have hfits := Grammar.fits_of_items hfile (Nat.zero_le _)
  refine ⟨text, leaves, rfl, fun other => Grammar.file_iff_of_file hfile, ?_, ?_⟩
  · intro before leaf later hsplit segments
    obtain ⟨hne, hleaf⟩ := hfits leaf (by simp [hsplit])
    have hkey : leaf.path = SymbolPath.nested segments :=
      (Leaf.nested_map_spelling hleaf.names).symm
    refine ⟨hne, hleaf.names, hkey, ?_, Leaf.isMethodKey_pathOf_iff hleaf.names, ?_⟩
    · rw [List.map_map]
      exact Leaf.splitOn_pathOf hleaf.names hne
    · intro hlast
      have hfound := get?_ofLeaves_of_last before hlast
      rw [← hsplit] at hfound
      refine ⟨hfound, ?_, ?_⟩
      · rw [nested?, ← hkey, hfound]
      · intro typeName second hnames
        have hmethod : leaf.path = SymbolPath.method typeName second.spelling := by
          simp [Leaf.path, hnames, Leaf.pathOf, SymbolPath.method, SymbolPath.qualify,
            ItemName.spelling]
        rw [method?, ← hmethod, hfound]
  · intro leaf hleaf other hother
    obtain ⟨hne, hleaf⟩ := hfits leaf hleaf
    obtain ⟨hne', hother⟩ := hfits other hother
    constructor
    · exact Leaf.pathOf_injective hleaf.names hother.names hne hne'
    · exact congrArg Leaf.pathOf

/-- A method that is written twice. -/
theorem keys_of_repeated_method :
    ∃ store, parse "(*File) \x7b Read func(); Read int \x7d".toByteArray = .ok store ∧
      store.nested? ["(*File)", "Read"] = some "int" ∧
      store.method? "File" "Read" = some "int" ∧
      SymbolPath.isMethodKey (SymbolPath.nested ["(*File)", "Read"]) = true := by
  let source := "(*File) \x7b Read func(); Read int \x7d"
  let names : List ItemName := [.receiver "File", .plain "Read"]
  let found : List Leaf := [⟨names, "func()"⟩, ⟨names, "int"⟩]
  have hrun : ({} : Source.Reading).run {} source.toList = .ok ⟨.itemEnd, [], found⟩ := by
    decide +kernel
  have hleaves : Source.leaves source.toByteArray = .ok found :=
    Source.leaves_toByteArray_of_run hrun rfl
  have hparse : parse source.toByteArray = .ok (ofLeaves found) :=
    congrArg (Except.map ofLeaves) hleaves
  obtain ⟨text, leaves, hsource, hunique, hkeys, -⟩ :=
    keys_are_nested_paths source.toByteArray _ hparse
  have hfile : Grammar.File text.toList found := by
    have hread := Grammar.file_of_leavesFrom hleaves
    rw [hsource, Cursor.ofBytes, Utf8.decode_toByteArray] at hread
    exact hread
  obtain rfl := (hunique found).1 hfile
  obtain ⟨-, -, hpath, -, hmethod, hfound⟩ := hkeys [⟨names, "func()"⟩] ⟨names, "int"⟩ [] rfl
  obtain ⟨-, hnested, hreceiver⟩ := hfound (by simp)
  refine ⟨ofLeaves found, hparse, hnested, hreceiver "File" (.plain "Read") rfl, ?_⟩
  rw [hpath] at hmethod
  exact hmethod.2 ⟨"File", .plain "Read", [], rfl⟩

end Store
end SymbolAnnotations
