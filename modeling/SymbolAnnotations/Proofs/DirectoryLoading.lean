import SymbolAnnotations.Proofs.DirectoryTree
import SymbolAnnotations.Proofs.FoundFiles
import SymbolAnnotations.Proofs.PackageNames
import SymbolAnnotations.Proofs.ParseRun

/-!
# Loading a directory tree

The registry of a directory is a matter of the annotation files in the tree: of the names
that lead to them and of what they hold.  The order in which directories list their entries
and the path of the root make no difference, except that a failure is reported at the path
where the file is.

* `TreeFile.examine_cases`, `TreeFile.exists_examine_iff` — what one file adds to a
  registry, and which files can be added;
* `Directory.pairwise_ordered`, `Directory.ordered_eq_of_file?_eq` — the files in the
  order of their names, which the tree alone decides;
* `foldlM_addFile_of_ok`, `foldlM_addFile_of_error` — the files one after the other, up to
  the first that cannot be added;
* `lookup?_insertions_eq_some_iff` — what the packages hold then, where the last file with a
  symbol answers for it;
* `loadDirectory_depends_on_tree` — all of this for the directory that a path names.
-/

namespace SymbolAnnotations

/-- The failure at another path. -/
def LoadError.at (path : Path) : LoadError → LoadError
  | access _ cause => access path cause
  | tooLarge _ size => tooLarge path size
  | invalidPackagePath _ => invalidPackagePath path
  | parse package _ source cause => parse package path source cause

namespace TreeFile

/-- What the file adds to a registry: a store for a package.  Its path is looked at first,
then its size, and then what it holds. -/
def examine (root : Path) (file : TreeFile) : Except LoadError (String × Store) :=
  let path := root.descend file.names
  match packagePath root path with
  | .error fault => .error fault
  | .ok package =>
    if maxSourceSize < file.content.size then
      .error (.tooLarge path file.content.size)
    else
      match Store.parse file.content.toByteArray with
      | .error cause => .error (.parse package path file.content.toByteArray cause)
      | .ok store => .ok (package, store)

/-- A file with a package that is a source and not too large. -/
structure IsUsable (file : TreeFile) : Prop where
  text : ∀ name ∈ file.names, name.toByteArray.IsValidUTF8
  size_le : file.content.size ≤ maxSourceSize
  parses : ∃ store, Store.parse file.content.toByteArray = .ok store

variable {root : Path} {file : TreeFile}

/-- The file is one of the package, and its source has this signature for the symbol. -/
def Gives (root : Path) (package symbol signature : String) (file : TreeFile) : Prop :=
  packagePath root (root.descend file.names) = .ok package ∧
    ∃ store, Store.parse file.content.toByteArray = .ok store ∧
      store.get? symbol = some signature

/-- It is the same whether the file is in the tree or has been found there. -/
theorem examine_found (root : Path) (file : TreeFile) :
    file.found.examine root = file.examine root := by
  simp only [FoundFile.examine, found, examine, Content.source]
  cases packagePath root (root.descend file.names) with
  | error fault => rfl
  | ok package =>
      by_cases hsize : maxSourceSize < file.content.size
      · simp only [if_pos hsize]
        rfl
      · cases hparse : Store.parse file.content.toByteArray <;> simp only [if_neg hsize, hparse]

/-- The registry takes what the file adds. -/
theorem addFile_found (root : Path) (registry : Registry) (file : TreeFile) :
    registry.addFile root file.found =
      (file.examine root).map fun entry => registry.insert entry.1 entry.2 := by
  rw [FoundFile.addFile_eq_map_examine, examine_found]

/-- The outcomes are those of the file as it is found; the only thing that keeps a file of
the tree from being read is its size. -/
theorem examine_cases (root : Path) (file : TreeFile) :
    packagePath root (root.descend file.names) =
          .error (.invalidPackagePath (root.descend file.names)) ∧
        file.examine root = .error (.invalidPackagePath (root.descend file.names)) ∨
      ∃ package, packagePath root (root.descend file.names) = .ok package ∧
        (maxSourceSize < file.content.size ∧
            file.examine root =
              .error (.tooLarge (root.descend file.names) file.content.size) ∨
          file.content.size ≤ maxSourceSize ∧
            ((∃ cause, Store.parse file.content.toByteArray = .error cause ∧
                file.examine root = .error
                  (.parse package (root.descend file.names) file.content.toByteArray cause)) ∨
              ∃ store, Store.parse file.content.toByteArray = .ok store ∧
                file.examine root = .ok (package, store))) := by
  have houtcomes := file.found.examine_cases root
  rw [examine_found] at houtcomes
  rcases houtcomes with hnone | ⟨package, hpackage, hchecks⟩
  · exact Or.inl hnone
  · refine Or.inr ⟨package, hpackage, ?_⟩
    by_cases hsize : maxSourceSize < file.content.size
    · have hsource : file.found.source = .error (.tooLarge file.content.size) := if_pos hsize
      rcases hchecks with ⟨cause, hcause, hfile⟩ | ⟨source, hread, -⟩
      · cases hsource.symm.trans hcause
        exact Or.inl ⟨hsize, hfile⟩
      · cases hsource.symm.trans hread
    · have hsource : file.found.source = .ok file.content.toByteArray := if_neg hsize
      rcases hchecks with ⟨cause, hcause, -⟩ | ⟨source, hread, hparsed⟩
      · cases hsource.symm.trans hcause
      · cases hsource.symm.trans hread
        exact Or.inr ⟨Nat.le_of_not_lt hsize, hparsed⟩

/-- There is a package for the file exactly if its path is text. -/
theorem exists_packagePath_iff (root : Path) (hproper : ∀ name ∈ file.names, name.IsProper)
    (hsource : file.isSource = true) :
    (∃ package, packagePath root (root.descend file.names) = .ok package) ↔
      ∀ name ∈ file.names, name.toByteArray.IsValidUTF8 := by
  rw [← Path.isSome_packagePath?_iff root hproper hsource, packagePath]
  cases root.packagePath? (root.descend file.names) with
  | none => simp
  | some package => simp

/-- Exactly the usable files add something. -/
theorem exists_examine_iff (hproper : ∀ name ∈ file.names, name.IsProper)
    (hsource : file.isSource = true) :
    (∃ entry, file.examine root = .ok entry) ↔ file.IsUsable := by
  have htext := exists_packagePath_iff root hproper hsource
  have hfails {fault : LoadError} (hfile : file.examine root = .error fault) :
      ¬ ∃ entry, file.examine root = .ok entry := by
    rintro ⟨entry, hentry⟩
    rw [hfile] at hentry
    cases hentry
  rcases examine_cases root file with ⟨hpackage, hfile⟩ | ⟨package, hpackage, hchecks⟩
  · refine iff_of_false (hfails hfile) ?_
    intro husable
    obtain ⟨package, hsome⟩ := htext.2 husable.text
    cases hpackage.symm.trans hsome
  · rcases hchecks with ⟨hsize, hfile⟩ | ⟨hsize, ⟨cause, hparse, hfile⟩ | ⟨store, hparse, hfile⟩⟩
    · refine iff_of_false (hfails hfile) ?_
      intro husable
      exact absurd hsize (Nat.not_lt.2 husable.size_le)
    · refine iff_of_false (hfails hfile) ?_
      intro husable
      obtain ⟨store, hstore⟩ := husable.parses
      rw [hparse] at hstore
      cases hstore
    · exact iff_of_true ⟨_, hfile⟩ ⟨htext.1 ⟨package, hpackage⟩, hsize, store, hparse⟩

/-- A failure is reported at the path of the file. -/
theorem path_of_examine {error : LoadError} (h : file.examine root = .error error) :
    error.path = root.descend file.names := by
  rcases examine_cases root file with
    ⟨-, hfile⟩ | ⟨_, -, ⟨-, hfile⟩ | ⟨-, ⟨_, -, hfile⟩ | ⟨_, -, hfile⟩⟩⟩ <;>
    rw [hfile] at h <;> cases h <;> rfl

/-- What is added is the store of the source, to the package of the path. -/
theorem of_examine_eq_ok {entry : String × Store} (h : file.examine root = .ok entry) :
    packagePath root (root.descend file.names) = .ok entry.1 ∧
      Store.parse file.content.toByteArray = .ok entry.2 := by
  rcases examine_cases root file with
    ⟨-, hfile⟩ | ⟨package, hpackage, ⟨-, hfile⟩ | ⟨-, ⟨_, -, hfile⟩ | ⟨store, hparse, hfile⟩⟩⟩ <;>
    cases h.symm.trans hfile
  exact ⟨hpackage, hparse⟩

theorem gives_iff_of_ok {entry : String × Store} {package symbol signature : String}
    (h : file.examine root = .ok entry) :
    file.Gives root package symbol signature ↔
      entry.1 = package ∧ entry.2.get? symbol = some signature := by
  obtain ⟨hpackage, hparse⟩ := of_examine_eq_ok h
  simp [Gives, hpackage, hparse]

/-- Below another root, nothing changes but the path of a failure. -/
theorem examine_congr (root root' : Path) (hproper : ∀ name ∈ file.names, name.IsProper) :
    file.examine root' =
      (file.examine root).mapError (LoadError.at (root'.descend file.names)) := by
  simp only [examine, packagePath, Path.packagePath?_congr root' root hproper]
  cases root.packagePath? (root.descend file.names) with
  | none => rfl
  | some package =>
      simp only
      split
      · rfl
      · cases Store.parse file.content.toByteArray <;> rfl

theorem examine_of_ok {entry : String × Store} (root' : Path)
    (hproper : ∀ name ∈ file.names, name.IsProper) (h : file.examine root = .ok entry) :
    file.examine root' = .ok entry := by
  rw [examine_congr root root' hproper, h]
  rfl

end TreeFile

namespace Directory

variable {directory other : Directory}

/-- The annotation files in the order of their names. -/
def ordered (directory : Directory) : List TreeFile :=
  directory.sources.mergeSort fun a b => (compare a.names b.names).isLE

theorem mem_ordered_iff (h : directory.WellFormed) {file : TreeFile} :
    file ∈ directory.ordered ↔
      directory.file? file.names = some file.content ∧ file.isSource = true := by
  rw [ordered, List.mem_mergeSort, mem_sources_iff h]

/-- Each file comes before all that follow it. -/
theorem pairwise_ordered (h : directory.WellFormed) :
    directory.ordered.Pairwise fun a b => compare a.names b.names = .lt := by
  have hle : directory.ordered.Pairwise fun a b => (compare a.names b.names).isLE = true := by
    refine List.pairwise_mergeSort ?_ ?_ _
    · intro a b c
      exact Std.TransCmp.isLE_trans
    · intro a b
      have hswap : compare b.names a.names = (compare a.names b.names).swap :=
        Std.OrientedCmp.eq_swap
      rw [hswap]
      cases compare a.names b.names <;> rfl
  have hne : directory.ordered.Pairwise fun a b => a.names ≠ b.names := by
    rw [← List.pairwise_map]
    exact ((List.mergeSort_perm _ _).map _).nodup_iff.2 (nodup_names_sources h)
  refine (hle.and hne).imp ?_
  rintro a b ⟨hle, hne⟩
  cases horder : compare a.names b.names with
  | lt => rfl
  | eq => exact absurd (Std.LawfulEqCmp.eq_of_compare horder) hne
  | gt =>
      rw [horder] at hle
      cases hle

/-- **The tree decides the order,** not the order of the entries in its directories. -/
theorem ordered_eq_of_file?_eq (h : directory.WellFormed) (h' : other.WellFormed)
    (hfiles : ∀ names, other.file? names = directory.file? names) :
    other.ordered = directory.ordered := by
  have hmem : ∀ file, file ∈ other.ordered ↔ file ∈ directory.ordered := by
    intro file
    rw [mem_ordered_iff h, mem_ordered_iff h', hfiles]
  have hnodup : ∀ {directory : Directory}, directory.WellFormed → directory.ordered.Nodup := by
    intro directory h
    exact (List.mergeSort_perm _ _).nodup_iff.2 (List.Nodup.of_map _ (nodup_names_sources h))
  -- two sorted lists of the same files are alike, for no file comes before itself
  refine List.Perm.eq_of_pairwise ?_ (pairwise_ordered h') (pairwise_ordered h)
    ((List.perm_ext_iff_of_nodup (hnodup h') (hnodup h)).2 hmem)
  intro a b _ _ hab hba
  have hswap : compare b.names a.names = (compare a.names b.names).swap :=
    Std.OrientedCmp.eq_swap
  rw [hab, hba] at hswap
  cases hswap

end Directory

namespace Registry

variable {root : Path} {files : List TreeFile} {entry : TreeFile → String × Store}

/-- The operations that add the files, given what each of them adds. -/
def insertions (entry : TreeFile → String × Store) (files : List TreeFile) : List Operation :=
  files.map fun file => .insert (entry file).1 (entry file).2

/-- All files are added one after the other. -/
theorem foldlM_addFile_of_ok (h : ∀ file ∈ files, file.examine root = .ok (entry file))
    (registry : Registry) :
    (files.map TreeFile.found).foldlM (addFile root) registry =
      .ok (registry.performAll (insertions entry files)) := by
  induction files generalizing registry with
  | nil => rfl
  | cons file rest ih =>
      obtain ⟨hfile, hrest⟩ := List.forall_mem_cons.1 h
      rw [List.map_cons, List.foldlM_cons, TreeFile.addFile_found, hfile]
      exact ih hrest _

/-- The packages are those of the files. -/
theorem isSome_package?_insertions (h : ∀ file ∈ files, file.examine root = .ok (entry file))
    (package : String) :
    ((empty.performAll (insertions entry files)).package? package).isSome = true ↔
      ∃ file ∈ files, packagePath root (root.descend file.names) = .ok package := by
  simp only [isSome_package?_performAll, insertions, List.mem_map, exists_exists_and_eq_and]
  refine exists_congr fun file => and_congr_right fun hfile => ?_
  obtain ⟨hpackage, -⟩ := TreeFile.of_examine_eq_ok (h file hfile)
  simp [Operation.package, Operation.store?, hpackage]

/-- **The last file that has a symbol** answers for it, if it is of the package. -/
theorem lookup?_insertions_eq_some_iff
    (h : ∀ file ∈ files, file.examine root = .ok (entry file))
    {package symbol signature : String} :
    (empty.performAll (insertions entry files)).lookup? package symbol = some signature ↔
      ∃ front file back, files = front ++ file :: back ∧
        file.Gives root package symbol signature ∧
        ∀ later ∈ back, ∀ other, ¬ later.Gives root package symbol other := by
  have hgives : ∀ file ∈ files, ∀ other,
      Operation.signature? package symbol (.insert (entry file).1 (entry file).2) = some other ↔
        file.Gives root package symbol other := by
    intro file hfile other
    rw [Operation.signature?_eq_some_iff, TreeFile.gives_iff_of_ok (h file hfile)]
    simp [Operation.package, Operation.store?]
  rw [lookup?_performAll_eq_some_iff]
  constructor
  · intro hlast
    obtain ⟨before, operation, later, hsplit, hsignature, hlater⟩ := hlast
    obtain ⟨front, rest, rfl, rfl, hrest⟩ := List.map_eq_append_iff.1 hsplit
    obtain ⟨file, back, rfl, rfl, rfl⟩ := List.map_eq_cons_iff.1 hrest
    refine ⟨front, file, back, rfl, (hgives file (by simp) signature).1 hsignature, ?_⟩
    intro other hother found hfound
    have hnone := hlater _ (List.mem_map_of_mem hother)
    rw [(hgives other (by simp [hother]) found).2 hfound] at hnone
    cases hnone
  · intro hlast
    obtain ⟨front, file, back, rfl, hfile, hback⟩ := hlast
    refine ⟨insertions entry front, _, insertions entry back, by simp [insertions],
      (hgives file (by simp) signature).2 hfile, ?_⟩
    intro operation hoperation
    obtain ⟨other, hother, rfl⟩ := List.mem_map.1 hoperation
    refine Option.eq_none_iff_forall_ne_some.2 ?_
    intro found hfound
    exact hback other hother found ((hgives other (by simp [hother]) found).1 hfound)

/-- **The first file that cannot be added** decides the failure. -/
theorem foldlM_addFile_of_error {front back : List TreeFile} {file : TreeFile}
    {error : LoadError} (hfront : ∀ earlier ∈ front, ∃ entry, earlier.examine root = .ok entry)
    (herror : file.examine root = .error error) (registry : Registry) :
    ((front ++ file :: back).map TreeFile.found).foldlM (addFile root) registry =
      .error error := by
  refine foldlM_addFile_eq_error_iff.2
    ⟨front.map TreeFile.found, file.found, back.map TreeFile.found, by simp, ?_, ?_⟩
  · intro earlier hearlier
    obtain ⟨before, hbefore, rfl⟩ := List.mem_map.1 hearlier
    rw [TreeFile.examine_found]
    exact hfront before hbefore
  · rw [TreeFile.examine_found, herror]

/-- Either all files can be added, or there is a first one that cannot. -/
theorem forall_ok_or_exists_first_error (root : Path) (files : List TreeFile) :
    (∀ file ∈ files, ∃ entry, file.examine root = .ok entry) ∨
      ∃ front file back error, files = front ++ file :: back ∧
        (∀ earlier ∈ front, ∃ entry, earlier.examine root = .ok entry) ∧
        file.examine root = .error error := by
  induction files with
  | nil => exact Or.inl (by simp)
  | cons file rest ih =>
      cases hfile : file.examine root with
      | error error => exact Or.inr ⟨[], file, rest, error, rfl, by simp, hfile⟩
      | ok entry =>
          rcases ih with hrest | ⟨front, failing, back, error, rfl, hfront, herror⟩
          · exact Or.inl (List.forall_mem_cons.2 ⟨⟨entry, hfile⟩, hrest⟩)
          · exact Or.inr ⟨file :: front, failing, back, error, rfl,
              List.forall_mem_cons.2 ⟨⟨entry, hfile⟩, hfront⟩, herror⟩

/-- **Another root.**  The same files give the same registry there, or the failure of the
same file. -/
theorem foldlM_addFile_at_root (root' : Path)
    (hproper : ∀ file ∈ files, ∀ name ∈ file.names, name.IsProper) :
    (∀ registry, (files.map TreeFile.found).foldlM (addFile root) empty = .ok registry →
      (files.map TreeFile.found).foldlM (addFile root') empty = .ok registry) ∧
    ∀ error, (files.map TreeFile.found).foldlM (addFile root) empty = .error error →
      ∃ file ∈ files, error.path = root.descend file.names ∧
        (files.map TreeFile.found).foldlM (addFile root') empty =
          .error (error.at (root'.descend file.names)) := by
  rcases forall_ok_or_exists_first_error root files with
    hall | ⟨front, file, back, error, rfl, hfront, herror⟩
  · choose! entry hentry using hall
    have hentry' : ∀ file ∈ files, file.examine root' = .ok (entry file) :=
      fun file hfile => TreeFile.examine_of_ok root' (hproper file hfile) (hentry file hfile)
    rw [foldlM_addFile_of_ok hentry, foldlM_addFile_of_ok hentry']
    constructor
    · intro registry hregistry
      exact hregistry
    · intro error herror
      cases herror
  · rw [List.forall_mem_append, List.forall_mem_cons] at hproper
    obtain ⟨hproper, hproper', -⟩ := hproper
    have hfront' : ∀ earlier ∈ front, ∃ entry, earlier.examine root' = .ok entry := by
      intro earlier hearlier
      obtain ⟨entry, hentry⟩ := hfront earlier hearlier
      exact ⟨entry, TreeFile.examine_of_ok root' (hproper earlier hearlier) hentry⟩
    have herror' : file.examine root' = .error (error.at (root'.descend file.names)) := by
      rw [TreeFile.examine_congr root root' hproper', herror]
      rfl
    rw [foldlM_addFile_of_error hfront herror, foldlM_addFile_of_error hfront' herror']
    constructor
    · intro registry hregistry
      cases hregistry
    · intro other hother
      cases hother
      exact ⟨file, by simp, TreeFile.path_of_examine herror, rfl⟩

theorem annotationFiles_eq {directory : Directory} {found : List FoundFile}
    (h : found.filter (·.isSource) = directory.sources.map TreeFile.found) :
    annotationFiles found = directory.ordered.map TreeFile.found := by
  rw [annotationFiles, h, Directory.ordered]
  symm
  apply List.map_mergeSort
  intro a _ b _
  rfl

/-- The registry of a directory that can be read, file by file. -/
theorem loadDirectory_eq_foldlM {system : FileSystem} {trail : Trail}
    (hroot : system.resolve root = .ok (.directory trail)) (htree : trail.here.WellFormed)
    (hread : ∀ names ∈ trail.here.places, FileSystem.refusal? (root.descend names) = none) :
    loadDirectory system.look root =
      (trail.here.ordered.map TreeFile.found).foldlM (addFile root) empty := by
  obtain ⟨found, hfound, hfilter⟩ := Directory.exists_filesFrom_eq root htree
    (by simp : ∀ name ∈ ([] : List FileName), name.IsProper) hread
  have hlook : system.look root = .ok (.directory (.ok found)) := by
    rw [FileSystem.look, hroot]
    exact congrArg (fun files => Except.ok (Target.directory files)) hfound
  rw [loadDirectory, hlook]
  exact congrArg (fun files => files.foldlM (addFile root) empty) (annotationFiles_eq hfilter)

/-- **What is loaded is a matter of the tree.**  Whatever the order in which directories
list their entries, the annotation files are taken in the order of their names, each from the
tree and through no link.  If all are usable, then the packages are those of the
files, and a package has the signature of the last of its files with the symbol; otherwise the
first file that is not usable decides the failure.  Another listing of
the same files, below whatever root, gives the same registry or the failure of the same
file. -/
theorem loadDirectory_depends_on_tree (system : FileSystem) (root : Path) (trail : Trail)
    (hroot : system.resolve root = .ok (.directory trail)) (htree : trail.here.WellFormed)
    (hread : ∀ names ∈ trail.here.places, FileSystem.refusal? (root.descend names) = none) :
    ∃ files : List TreeFile,
      (∀ file, file ∈ files ↔
        trail.here.file? file.names = some file.content ∧ file.isSource = true) ∧
      files.Pairwise (fun a b => compare a.names b.names = .lt) ∧
      (∀ file ∈ files, (∃ package, packagePath root (root.descend file.names) = .ok package) ↔
        ∀ name ∈ file.names, name.toByteArray.IsValidUTF8) ∧
      ((∀ file ∈ files, file.IsUsable) →
        ∃ registry, loadDirectory system.look root = .ok registry ∧
          (∀ package, (registry.package? package).isSome = true ↔
            ∃ file ∈ files, packagePath root (root.descend file.names) = .ok package) ∧
          ∀ package store, registry.package? package = some store →
            ∀ symbol signature, store.get? symbol = some signature ↔
              ∃ front file back, files = front ++ file :: back ∧
                file.Gives root package symbol signature ∧
                ∀ later ∈ back, ∀ other, ¬ later.Gives root package symbol other) ∧
      (∀ front file back, files = front ++ file :: back → (∀ earlier ∈ front, earlier.IsUsable) →
        ¬ file.IsUsable → ∃ error, file.examine root = .error error ∧
          loadDirectory system.look root = .error error) ∧
      ∀ (system' : FileSystem) (root' : Path) (trail' : Trail),
        system'.resolve root' = .ok (.directory trail') → trail'.here.WellFormed →
        (∀ names ∈ trail'.here.places, FileSystem.refusal? (root'.descend names) = none) →
        (∀ names, trail'.here.file? names = trail.here.file? names) →
        (∀ registry, loadDirectory system.look root = .ok registry →
          loadDirectory system'.look root' = .ok registry) ∧
        ∀ error, loadDirectory system.look root = .error error →
          ∃ file ∈ files, error.path = root.descend file.names ∧
            loadDirectory system'.look root' = .error (error.at (root'.descend file.names)) := by
  have hfold := loadDirectory_eq_foldlM hroot htree hread
  have hmem : ∀ file, file ∈ trail.here.ordered ↔
      trail.here.file? file.names = some file.content ∧ file.isSource = true :=
    fun file => Directory.mem_ordered_iff htree
  have hproper : ∀ file ∈ trail.here.ordered, ∀ name ∈ file.names, name.IsProper := by
    intro file hfile
    exact Directory.isProper_of_mem_sources htree (List.mem_mergeSort.1 hfile)
  have husable : ∀ file ∈ trail.here.ordered,
      ((∃ entry, file.examine root = .ok entry) ↔ file.IsUsable) := by
    intro file hfile
    exact TreeFile.exists_examine_iff (hproper file hfile) ((hmem file).1 hfile).2
  refine ⟨trail.here.ordered, hmem, Directory.pairwise_ordered htree, ?_, ?_, ?_, ?_⟩
  · intro file hfile
    exact TreeFile.exists_packagePath_iff root (hproper file hfile) ((hmem file).1 hfile).2
  · intro hall
    have hentries : ∀ file ∈ trail.here.ordered, ∃ entry, file.examine root = .ok entry :=
      fun file hfile => (husable file hfile).2 (hall file hfile)
    choose! entry hentry using hentries
    refine ⟨_, hfold.trans (foldlM_addFile_of_ok hentry empty),
      isSome_package?_insertions hentry, ?_⟩
    intro package store hstore symbol signature
    rw [← lookup?_insertions_eq_some_iff hentry, lookup?, hstore, Option.bind_some]
  · intro front file back hsplit hfront hfile
    rw [hsplit, List.forall_mem_append, List.forall_mem_cons] at husable
    obtain ⟨hbefore, hhere, -⟩ := husable
    cases herror : file.examine root with
    | ok entry => exact absurd (hhere.1 ⟨entry, herror⟩) hfile
    | error error =>
        refine ⟨error, rfl, ?_⟩
        rw [hfold, hsplit]
        exact foldlM_addFile_of_error
          (fun earlier hearlier => (hbefore earlier hearlier).2 (hfront earlier hearlier))
          herror empty
  · intro system' root' trail' hroot' htree' hread' hfiles
    have hfold' := loadDirectory_eq_foldlM hroot' htree' hread'
    rw [Directory.ordered_eq_of_file?_eq htree htree' hfiles] at hfold'
    rw [hfold, hfold']
    exact foldlM_addFile_at_root root' hproper

/-- One tree in two file systems, which list it in different orders and have it at
different places. -/
theorem loadDirectory_two_listings :
    let text := Content.bytes "f int;".toByteArray
    let inner := Directory.file (FileName.ofString "b.sgoann") text .empty
    let here := Directory.file (FileName.ofString "c.sgoann") text
      (.subdirectory (FileName.ofString "a") inner .empty)
    let there := Directory.subdirectory (FileName.ofString "a") inner
      (.file (FileName.ofString "c.sgoann") text .empty)
    let system : FileSystem := ⟨.subdirectory (FileName.ofString "anns") here .empty, []⟩
    let system' : FileSystem := ⟨there, []⟩
    ∃ registry, loadDirectory system.look (Path.ofString "/anns/") = .ok registry ∧
      loadDirectory system'.look (Path.ofString ".") = .ok registry := by
  intro text inner here there system system'
  have hroot : system.resolve (Path.ofString "/anns/") =
      .ok (.directory ⟨here, [(FileName.ofString "anns", system.top)]⟩) := by
    have hrefusal : FileSystem.refusal? (Path.ofString "/anns/") = none := by decide +kernel
    have habsolute : (Path.ofString "/anns/").isAbsolute = true := by decide +kernel
    have hpieces : (Path.ofString "/anns/").pieces = [[], FileName.ofString "anns", []] := by
      decide +kernel
    obtain ⟨hproper, hlength⟩ : (FileName.ofString "anns").IsProper ∧
        (FileName.ofString "anns").length ≤ FileSystem.maxNameLength := by
      decide +kernel
    have hnode : (Trail.mk system.top []).here.node? (FileName.ofString "anns") =
        some (.directory here) :=
      if_pos rfl
    simp only [FileSystem.resolve, hrefusal, FileSystem.start, if_pos habsolute, hpieces]
    rw [FileSystem.resolveFrom_stay (Or.inl rfl),
      FileSystem.resolveFrom_enter hproper hlength hnode,
      FileSystem.resolveFrom_stay (Or.inl rfl), FileSystem.resolveFrom, Trail.enter]
  have hroot' : system'.resolve (Path.ofString ".") = .ok (.directory ⟨there, []⟩) := by
    have hrefusal : FileSystem.refusal? (Path.ofString ".") = none := by decide +kernel
    have habsolute : ¬ (Path.ofString ".").isAbsolute = true := by decide +kernel
    have hpieces : (Path.ofString ".").pieces = [[Path.dot]] := by decide +kernel
    simp only [FileSystem.resolve, hrefusal, FileSystem.start, if_neg habsolute, hpieces]
    rw [FileSystem.resolveFrom_stay (Or.inr rfl), FileSystem.resolveFrom]
    rfl
  obtain ⟨hdirectory, hinside, hbeside⟩ : (FileName.ofString "a").IsProper ∧
      (FileName.ofString "b.sgoann").IsProper ∧ (FileName.ofString "c.sgoann").IsProper := by
    decide +kernel
  have hne : FileName.ofString "c.sgoann" ≠ FileName.ofString "a" := by decide +kernel
  have htree : here.WellFormed :=
    ⟨hbeside, by simp [Directory.node?, hne.symm], hdirectory, rfl, ⟨hinside, rfl, trivial⟩,
      trivial⟩
  have htree' : there.WellFormed :=
    ⟨hdirectory, by simp [Directory.node?, hne], ⟨hinside, rfl, trivial⟩, hbeside, rfl, trivial⟩
  have hread : ∀ names ∈ here.places,
      FileSystem.refusal? ((Path.ofString "/anns/").descend names) = none := by
    decide +kernel
  have hread' : ∀ names ∈ there.places,
      FileSystem.refusal? ((Path.ofString ".").descend names) = none := by
    decide +kernel
  have hfiles : ∀ names, there.file? names = here.file? names := by
    intro names
    cases names with
    | nil => rfl
    | cons first rest =>
        rw [Directory.file?_subdirectory, Directory.file?_file, Directory.file?_file,
          Directory.file?_subdirectory]
        split_ifs <;> simp_all [Directory.file?]
  obtain ⟨files, hmem, -, -, hload, -, hother⟩ :=
    loadDirectory_depends_on_tree system (Path.ofString "/anns/") _ hroot htree hread
  have hparse : Store.parse "f int;".toByteArray =
      .ok (Store.ofLeaves [⟨[.plain "f"], "int"⟩]) := by
    have hrun : ({} : Source.Reading).run {} (Utf8.decode "f int;".toByteArray).runes =
        .ok ⟨.items, [], [⟨[.plain "f"], "int"⟩]⟩ := by
      rw [Utf8.decode_toByteArray]
      decide +kernel
    have hcomplete : (Utf8.decode "f int;".toByteArray).complete = true := by
      rw [Utf8.decode_toByteArray]
    rw [Store.parse_eq_close hrun, hcomplete]
    rfl
  have husable : ∀ file ∈ files, file.IsUsable := by
    intro file hfile
    have hsources : here.sources = [⟨[FileName.ofString "c.sgoann"], text⟩,
        ⟨[FileName.ofString "a", FileName.ofString "b.sgoann"], text⟩] := by
      obtain ⟨hinside, hbeside⟩ : (FileName.ofString "b.sgoann").isSource = true ∧
          (FileName.ofString "c.sgoann").isSource = true := by
        decide +kernel
      simp [here, inner, Directory.sources, hinside, hbeside, TreeFile.under]
    have htext : ∀ name : String, (FileName.ofString name).toByteArray.IsValidUTF8 := by
      intro name
      rw [FileName.toByteArray_ofString]
      exact name.isValidUTF8
    have hsize : text.size ≤ maxSourceSize := by decide +kernel
    have hfound := (Directory.mem_sources_iff htree).2 ((hmem file).1 hfile)
    rw [hsources] at hfound
    rcases List.mem_pair.1 hfound with rfl | rfl
    · exact ⟨by simp [htext], hsize, _, hparse⟩
    · exact ⟨by simp [htext], hsize, _, hparse⟩
  obtain ⟨registry, hregistry, -⟩ := hload husable
  exact ⟨registry, hregistry,
    (hother system' (Path.ofString ".") _ hroot' htree' hread' hfiles).1 registry hregistry⟩

end Registry
end SymbolAnnotations
