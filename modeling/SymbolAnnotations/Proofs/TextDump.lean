import SymbolAnnotations.Program
import SymbolAnnotations.Proofs.CheckRuns
import SymbolAnnotations.Proofs.RegistryRuns
import SymbolAnnotations.Proofs.StoreImage

/-!
# Reading printed text

In the text format nothing is escaped, and yet every line can be cut into what
it was made of.  A path has neither a tab nor a colon nor a newline in it, since
no name is spelled with one, and a signature has no newline.  So the first tab
of a line ends its path, and the last colon in front of that tab ends its
package, whatever else the package and the signature have in them.

* `cutFirst?_eq_some_iff`, `cutLast?_eq_some_iff` — cutting a line;
* `ReadsAs` — the lines of a text as rows;
* `Store.readsAs_text`, `Registry.readsAs_text` — the rows of what is printed;
* `text_dump_unambiguous` — printed registries and stores, and lookups in a
  file.
-/

namespace SymbolAnnotations
namespace TextDump

/-- What stands in front of the first `mark`, and what stands behind it. -/
def cutFirst? (mark : Char) : List Char → Option (List Char × List Char)
  | [] => none
  | rune :: rest =>
    if rune = mark then some ([], rest)
    else (cutFirst? mark rest).map fun cut => (rune :: cut.1, cut.2)

/-- What stands in front of the last `mark`, and what stands behind it. -/
def cutLast? (mark : Char) (text : List Char) : Option (List Char × List Char) :=
  (cutFirst? mark text.reverse).map fun cut => (cut.2.reverse, cut.1.reverse)

/-- The path and the signature of a line, which is cut at its first tab. -/
def storeRow? (line : List Char) : Option (String × String) :=
  (cutFirst? '\t' line).map fun cut => (String.ofList cut.1, String.ofList cut.2)

/-- The package, the path and the signature of a line, which is cut at its first
tab, and in front of that at the last colon. -/
def registryRow? (line : List Char) : Option (String × String × String) := do
  let (left, signature) ← cutFirst? '\t' line
  let (package, path) ← cutLast? ':' left
  return (String.ofList package, String.ofList path, String.ofList signature)

/-- Newlines cut the text into lines that read as these rows, one by one, and
nothing is left behind the last newline. -/
def ReadsAs {α : Type} (read : List Char → Option α) (text : String) (rows : List α) : Prop :=
  ∃ lines, text.toList.splitOn '\n' = lines ++ [[]] ∧ lines.map read = rows.map some

theorem cutFirst?_eq_some_iff {mark : Char} {text front back : List Char} :
    cutFirst? mark text = some (front, back) ↔ text = front ++ mark :: back ∧ mark ∉ front := by
  induction text generalizing front with
  | nil => simp [cutFirst?]
  | cons rune rest ih =>
      rw [cutFirst?]
      by_cases hmark : rune = mark
      · rw [if_pos hmark]
        cases front with
        | nil => simp [hmark]
        | cons first more =>
            have hlater : ¬ (rune :: rest = first :: more ++ mark :: back ∧
                mark ∉ first :: more) := by
              rintro ⟨htext, hfront⟩
              exact hfront (by simp [← (List.cons.inj htext).1, hmark])
            exact iff_of_false (by simp) hlater
      · rw [if_neg hmark, Option.map_eq_some_iff]
        constructor
        · rintro ⟨⟨more, behind⟩, hcut, heq⟩
          obtain ⟨rfl, rfl⟩ := Prod.mk.inj heq
          obtain ⟨rfl, hmore⟩ := ih.1 hcut
          exact ⟨rfl, by simp [hmore, Ne.symm hmark]⟩
        · rintro ⟨htext, hfront⟩
          cases front with
          | nil => exact absurd (List.cons.inj htext).1 hmark
          | cons first more =>
              obtain ⟨rfl, hrest⟩ := List.cons.inj htext
              have hmore : mark ∉ more := fun hmem => hfront (List.mem_cons_of_mem _ hmem)
              exact ⟨(more, back), ih.2 ⟨hrest, hmore⟩, rfl⟩

/-- The last `mark` is the first one from behind. -/
theorem cutLast?_eq_some_iff {mark : Char} {text front back : List Char} :
    cutLast? mark text = some (front, back) ↔ text = front ++ mark :: back ∧ mark ∉ back := by
  have hbehind : cutLast? mark text = some (front, back) ↔
      cutFirst? mark text.reverse = some (back.reverse, front.reverse) := by
    rw [cutLast?, Option.map_eq_some_iff]
    constructor
    · rintro ⟨cut, hcut, heq⟩
      obtain ⟨rfl, rfl⟩ := Prod.mk.inj heq
      simpa using hcut
    · intro hcut
      exact ⟨_, hcut, by simp⟩
  rw [hbehind, cutFirst?_eq_some_iff, ← List.reverse_inj]
  simp

/-- Newlines that end lines stand between them and nothing. -/
theorem intercalate_concat_nil (lines : List (List Char)) :
    ['\n'].intercalate (lines ++ [[]]) = lines.flatMap (· ++ ['\n']) := by
  induction lines with
  | nil => simp
  | cons line more ih =>
      cases more with
      | nil => simp
      | cons next rest =>
          rw [List.cons_append] at ih
          rw [List.cons_append, List.cons_append, List.intercalate_cons_cons, ih]
          rfl

/-- Lines that are ended by newlines are found between them. -/
theorem splitOn_lines {lines : List (List Char)} (h : ∀ line ∈ lines, '\n' ∉ line) :
    (lines.flatMap (· ++ ['\n'])).splitOn '\n' = lines ++ [[]] := by
  rw [← intercalate_concat_nil]
  refine List.splitOn_intercalate '\n' ?_ (by simp)
  simpa [or_imp, forall_and] using h

/-- A line for each row, if none of them has a newline inside, reads as the
rows. -/
theorem readsAs_join {α : Type} {read : List Char → Option α} {line : α → String} {rows : List α}
    (hnewline : ∀ row ∈ rows, '\n' ∉ (line row).toList)
    (hread : ∀ row ∈ rows, read (line row).toList = some row) :
    ReadsAs read (String.join (rows.map fun row => line row ++ "\n")) rows := by
  refine ⟨rows.map fun row => (line row).toList, ?_, ?_⟩
  · rw [← splitOn_lines (by simpa using hnewline)]
    simp [List.flatMap_map]
  · rw [List.map_map]
    exact List.map_congr_left hread

/-- Some line reads as a row exactly if the row is there. -/
theorem ReadsAs.exists_line_iff {α : Type} {read : List Char → Option α} {text : String}
    {rows : List α} (h : ReadsAs read text rows) (hnone : read [] = none) (row : α) :
    (∃ line ∈ text.toList.splitOn '\n', read line = some row) ↔ row ∈ rows := by
  obtain ⟨lines, hlines, hrows⟩ := h
  have hmem : row ∈ rows ↔ some row ∈ lines.map read := by simp [hrows]
  rw [hmem, hlines]
  simp [hnone]

theorem storeRow?_eq_some {path signature : String} (htab : '\t' ∉ path.toList) :
    storeRow? (path ++ "\t" ++ signature).toList = some (path, signature) := by
  have hcut : cutFirst? '\t' (path ++ "\t" ++ signature).toList =
      some (path.toList, signature.toList) :=
    cutFirst?_eq_some_iff.2 ⟨by simp, htab⟩
  rw [storeRow?, hcut]
  simp

theorem registryRow?_eq_some {package path signature : String} (htab : '\t' ∉ package.toList)
    (htab' : '\t' ∉ path.toList) (hcolon : ':' ∉ path.toList) :
    registryRow? (package ++ ":" ++ path ++ "\t" ++ signature).toList =
      some (package, path, signature) := by
  have hcut : cutFirst? '\t' (package ++ ":" ++ path ++ "\t" ++ signature).toList =
      some ((package ++ ":" ++ path).toList, signature.toList) :=
    cutFirst?_eq_some_iff.2 ⟨by simp, by simp [htab, htab']⟩
  have hcut' : cutLast? ':' (package ++ ":" ++ path).toList =
      some (package.toList, path.toList) :=
    cutLast?_eq_some_iff.2 ⟨by simp, hcolon⟩
  simp only [registryRow?, hcut, hcut', Option.bind_eq_bind, Option.bind_some, Option.pure_def,
    String.ofList_toList]

end TextDump

open TextDump

namespace Store

/-- What is parsed has no mark of the text format in its paths, and no newline in
its signatures. -/
structure Legible (path signature : String) : Prop where
  tab : '\t' ∉ path.toList
  colon : ':' ∉ path.toList
  newline : '\n' ∉ path.toList
  ends : '\n' ∉ signature.toList

theorem WellFormed.legible {store : Store} (h : store.WellFormed) {path signature : String}
    (hget : store.get? path = some signature) : Legible path signature := by
  obtain ⟨names, -, rfl, hfits⟩ := h.exists_names hget
  have hnewline : '\n' ∉ signature.toList := fun hmem => (hfits.signature.inside _ hmem).1 rfl
  refine ⟨?_, ?_, ?_, hnewline⟩
  all_goals
    exact Leaf.not_mem_pathOf hfits.names (by decide +kernel) (by decide +kernel) (by decide)
      (by decide)

/-- **A printed store** reads as its entries. -/
theorem readsAs_text {store : Store} (h : store.WellFormed) :
    ReadsAs storeRow? (store.text "" "\t") store.toList := by
  have hlegible : ∀ entry ∈ store.toList, Legible entry.1 entry.2 := by
    rintro ⟨path, signature⟩ hentry
    exact h.legible (mem_toList_iff.1 hentry)
  have hline : textLine "" "\t" = fun entry => (entry.1 ++ "\t" ++ entry.2) ++ "\n" := by
    funext entry
    rw [textLine, String.empty_append]
  rw [text, hline]
  apply readsAs_join
  · intro entry hentry
    simp [(hlegible entry hentry).newline, (hlegible entry hentry).ends]
  · intro entry hentry
    exact storeRow?_eq_some (hlegible entry hentry).tab

end Store

namespace Registry

/-- The entries of all packages, each with its package in front. -/
def rows (registry : Registry) : List (String × String × String) :=
  registry.toList.flatMap fun entry => entry.2.toList.map (entry.1, ·)

theorem mem_rows_iff {registry : Registry} {package path signature : String} :
    (package, path, signature) ∈ registry.rows ↔
      registry.lookup? package path = some signature := by
  have hpackage : ∀ store, (package, store) ∈ registry.toList ↔
      registry.package? package = some store :=
    fun store => Std.ExtTreeMap.mem_toList_iff_getElem?_eq_some
  rw [lookup?, Option.bind_eq_some_iff]
  constructor
  · intro hrow
    obtain ⟨⟨_, store⟩, hstore, hentry⟩ := List.mem_flatMap.1 hrow
    obtain ⟨entry, hentry, heq⟩ := List.mem_map.1 hentry
    cases heq
    exact ⟨store, (hpackage store).1 hstore, Store.mem_toList_iff.1 hentry⟩
  · rintro ⟨store, hstore, hget⟩
    exact List.mem_flatMap.2 ⟨(package, store), (hpackage store).2 hstore,
      List.mem_map_of_mem (Store.mem_toList_iff.2 hget)⟩

/-- Rows come in the order of their packages, and within a package in the order of
their paths. -/
theorem pairwise_rows (registry : Registry) :
    registry.rows.Pairwise fun row other =>
      row.1 < other.1 ∨ row.1 = other.1 ∧ row.2.1 < other.2.1 := by
  rw [rows, List.pairwise_flatMap]
  constructor
  · intro entry _
    rw [List.pairwise_map]
    exact (pairwise_fst_toList entry.2.entries).imp fun h => .inr ⟨rfl, h⟩
  · refine (pairwise_fst_toList registry.packages).imp ?_
    rintro entry other hlt _ hrow _ hother
    obtain ⟨_, _, rfl⟩ := List.mem_map.1 hrow
    obtain ⟨_, _, rfl⟩ := List.mem_map.1 hother
    exact .inl hlt

theorem text_eq_join_rows (registry : Registry) (separator : String) :
    registry.text separator =
      String.join (registry.rows.map fun row =>
        Store.textLine (row.1 ++ ":") separator row.2) := by
  rw [← String.toList_inj]
  simp [text, Store.text, rows, List.flatMap_map, List.map_flatMap, List.flatMap_assoc]

/-- **A printed registry** reads as its rows. -/
theorem readsAs_text {registry : Registry}
    (hpackage : ∀ row ∈ registry.rows, '\t' ∉ row.1.toList ∧ '\n' ∉ row.1.toList)
    (hlegible : ∀ row ∈ registry.rows, Store.Legible row.2.1 row.2.2) :
    ReadsAs registryRow? (registry.text "\t") registry.rows := by
  rw [text_eq_join_rows]
  apply readsAs_join
  · intro row hrow
    simp [(hpackage row hrow).2, (hlegible row hrow).newline, (hlegible row hrow).ends]
  · intro row hrow
    exact registryRow?_eq_some (hpackage row hrow).1 (hlegible row hrow).tab
      (hlegible row hrow).colon

/-- What sources add to a registry. -/
theorem exists_addition_of_lookup? {additions : List (String × ByteArray)}
    {package symbol signature : String}
    (h : (empty.performAll (additions.map fun addition =>
      .addSource addition.1 addition.2)).lookup? package symbol = some signature) :
    ∃ addition ∈ additions, addition.1 = package ∧
      ∃ store, Store.parse addition.2 = .ok store ∧ store.get? symbol = some signature := by
  obtain ⟨before, operation, later, hsplit, hsignature, -⟩ := lookup?_performAll_eq_some_iff.1 h
  have hmem : operation ∈ additions.map fun addition =>
      Operation.addSource addition.1 addition.2 := by simp [hsplit]
  obtain ⟨addition, haddition, rfl⟩ := List.mem_map.1 hmem
  obtain ⟨hpackage, store, hstore, hget⟩ := Operation.signature?_eq_some_iff.1 hsignature
  refine ⟨addition, haddition, hpackage, store, ?_, hget⟩
  rw [Operation.store?] at hstore
  cases hparse : Store.parse addition.2 with
  | error fault =>
      rw [hparse] at hstore
      cases hstore
  | ok found =>
      rw [hparse] at hstore
      cases hstore
      rfl

/-- Added sources leave rows that can be read, if their packages have no mark of a
line. -/
theorem readsAs_text_performAll {additions : List (String × ByteArray)}
    (h : ∀ addition ∈ additions, '\t' ∉ addition.1.toList ∧ '\n' ∉ addition.1.toList) :
    let registry := empty.performAll (additions.map fun addition =>
      .addSource addition.1 addition.2)
    ReadsAs registryRow? (registry.text "\t") registry.rows := by
  intro registry
  refine readsAs_text ?_ ?_
  · intro row hrow
    obtain ⟨addition, haddition, hpackage, -⟩ := exists_addition_of_lookup? (mem_rows_iff.1 hrow)
    exact hpackage ▸ h addition haddition
  · intro row hrow
    obtain ⟨addition, -, -, store, hparse, hget⟩ :=
      exists_addition_of_lookup? (mem_rows_iff.1 hrow)
    exact (Store.wellFormed_of_parse_eq_ok hparse).legible hget

end Registry

namespace Command

variable {view : FileView} {file symbol : String} {source : ByteArray} {store : Store}

/-- A file that can be read is no directory. -/
theorem ne_directory_of_readSource {path : Path} (hread : view.readSource path = .ok source)
    (listing : Except ListingError (List FoundFile)) : view path ≠ .ok (.directory listing) := by
  intro hview
  rw [FileView.readSource, hview] at hread
  cases hread

/-- The store of a file that parses. -/
theorem loadStore_of_parse {path : Path} (hread : view.readSource path = .ok source)
    (hparse : Store.parse source = .ok store) : loadStore view path = .ok store := by
  rw [loadStore, readSource, hread]
  exact congrArg (Except.mapError _) hparse

/-- A file that parses is dumped as its store. -/
theorem run_dump_of_parse (hread : view.readSource (.ofString file) = .ok source)
    (hparse : Store.parse source = .ok store) (compact : Bool) (separator : String) :
    (dump file .text compact separator).run view = .ok (store.text "" separator) := by
  rw [run, runDump, load_eq_map_loadStore (ne_directory_of_readSource hread),
    loadStore_of_parse hread hparse]
  rfl

/-- A lookup prints what the store of the file has under the symbol. -/
theorem outcome_lookup_eq_iff {signature : String}
    (hread : view.readSource (.ofString file) = .ok source)
    (hparse : Store.parse source = .ok store) :
    Outcome.ofResult ((lookup file symbol).run view) =
        { exitCode := 0, output := signature ++ "\n" } ↔
      store.get? symbol = some signature := by
  rw [run, runLookup, loadStore_of_parse hread hparse]
  simp only [bind, Except.bind]
  cases hget : store.get? symbol with
  | some found => simp [pure, Except.pure, Outcome.ofResult]
  | none => simp [throw, throwThe, MonadExceptOf.throw, Outcome.ofResult]

/-- A lookup fails if the store of the file has nothing under the symbol. -/
theorem exitCode_lookup_eq_one_iff
    (hread : view.readSource (.ofString file) = .ok source)
    (hparse : Store.parse source = .ok store) :
    (Outcome.ofResult ((lookup file symbol).run view)).exitCode = 1 ↔
      store.get? symbol = none := by
  cases hget : store.get? symbol with
  | some signature => simp [(outcome_lookup_eq_iff hread hparse).2 hget]
  | none =>
      rw [run, runLookup, loadStore_of_parse hread hparse]
      simp only [bind, Except.bind, hget]
      exact iff_of_true rfl trivial

end Command

/-- **Printed text is unambiguous.**  Whatever sources are added to a registry,
under packages without tabs and newlines, its text consists of lines that can be
cut into package, path and signature, and these rows are what lookups in the
registry find, in the order of the packages and paths.  The text of a parsed
source is cut into its paths and signatures in the same way.  For a file that
parses, a lookup prints a signature exactly if the text that is dumped of the
file has a line of the symbol and this signature, and fails exactly if no line
has the symbol. -/
theorem text_dump_unambiguous :
    (∀ (additions : List (String × ByteArray)) (pretty : Bool),
      (∀ addition ∈ additions, '\t' ∉ addition.1.toList ∧ '\n' ∉ addition.1.toList) →
      let registry := Registry.empty.performAll
        (additions.map fun addition => .addSource addition.1 addition.2)
      ∃ rows, ReadsAs registryRow? (registry.render { pretty }) rows ∧
        (∀ package path signature, (package, path, signature) ∈ rows ↔
          registry.lookup? package path = some signature) ∧
        rows.Pairwise fun row other =>
          row.1 < other.1 ∨ row.1 = other.1 ∧ row.2.1 < other.2.1) ∧
    (∀ (source : ByteArray) (store : Store) (pretty : Bool), Store.parse source = .ok store →
      ∃ rows, ReadsAs storeRow? (store.render { pretty }) rows ∧
        (∀ path signature, (path, signature) ∈ rows ↔ store.get? path = some signature) ∧
        rows.Pairwise (·.1 < ·.1)) ∧
    ∀ (view : FileView) (file symbol : String) (source : ByteArray) (store : Store)
      (compact : Bool), view.readSource (.ofString file) = .ok source →
      Store.parse source = .ok store →
      ∃ text, (Command.dump file .text compact "\t").run view = .ok text ∧
        (∀ signature, Outcome.ofResult ((Command.lookup file symbol).run view) =
            { exitCode := 0, output := signature ++ "\n" } ↔
          ∃ line ∈ text.toList.splitOn '\n', storeRow? line = some (symbol, signature)) ∧
        ((Outcome.ofResult ((Command.lookup file symbol).run view)).exitCode = 1 ↔
          ∀ line ∈ text.toList.splitOn '\n', ∀ signature,
            storeRow? line ≠ some (symbol, signature)) := by
  refine ⟨?_, ?_, ?_⟩
  · intro additions pretty hpackages registry
    exact ⟨registry.rows, Registry.readsAs_text_performAll hpackages,
      fun _ _ _ => Registry.mem_rows_iff, registry.pairwise_rows⟩
  · intro source store pretty hparse
    exact ⟨store.toList, Store.readsAs_text (Store.wellFormed_of_parse_eq_ok hparse),
      fun _ _ => Store.mem_toList_iff, pairwise_fst_toList store.entries⟩
  · intro view file symbol source store compact hread hparse
    have hline : ∀ signature,
        (∃ line ∈ (store.text "" "\t").toList.splitOn '\n',
          storeRow? line = some (symbol, signature)) ↔ store.get? symbol = some signature := by
      intro signature
      have hrows := Store.readsAs_text (Store.wellFormed_of_parse_eq_ok hparse)
      exact (hrows.exists_line_iff rfl _).trans Store.mem_toList_iff
    refine ⟨_, Command.run_dump_of_parse hread hparse compact "\t", ?_, ?_⟩
    · intro signature
      rw [Command.outcome_lookup_eq_iff hread hparse, hline]
    · rw [Command.exitCode_lookup_eq_one_iff hread hparse, Option.eq_none_iff_forall_ne_some]
      simp only [Ne, ← hline, not_exists, not_and]
      exact ⟨fun h line hmem signature => h signature line hmem,
        fun h signature line hmem => h line hmem signature⟩

-- Packages and signatures may have the marks of the format in them.
example : registryRow? "a:b:T.f\tx:\ty".toList = some ("a:b", "T.f", "x:\ty") := by
  decide +kernel

end SymbolAnnotations
