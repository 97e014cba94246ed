import SymbolAnnotations.Proofs.RegistryRuns
import SymbolAnnotations.Registry.Load

/-!
# The annotation files of a directory, one after the other

Whether a file can be added to a registry does not depend on what the registry holds.  So a
directory is loaded as far as its annotation files go, in their order, and the first of them
that cannot be added is all that is said of a directory that fails.

* `FoundFile.examine_cases` — what becomes of one file;
* `Registry.foldlM_addFile_of_forall_ok` — files that can be added are added;
* `Registry.ofFiles_eq_error_iff` — the first file that cannot be added decides the failure.
-/

namespace SymbolAnnotations

namespace FoundFile

/-- What the file adds to a registry: a store for a package.  Its path is looked at first,
then its source is read and parsed. -/
def examine (root : Path) (file : FoundFile) : Except LoadError (String × Store) :=
  let path := root.descend file.names
  match packagePath root path with
  | .error fault => .error fault
  | .ok package =>
    match file.source with
    | .error cause => .error (.ofReadError path cause)
    | .ok source =>
      match Store.parse source with
      | .error fault => .error (.parse package path source fault)
      | .ok store => .ok (package, store)

/-- The outcomes: each check is made only if the file has passed those before it. -/
theorem examine_cases (root : Path) (file : FoundFile) :
    packagePath root (root.descend file.names) =
          .error (.invalidPackagePath (root.descend file.names)) ∧
        file.examine root = .error (.invalidPackagePath (root.descend file.names)) ∨
      ∃ package, packagePath root (root.descend file.names) = .ok package ∧
        ((∃ cause, file.source = .error cause ∧
            file.examine root = .error (.ofReadError (root.descend file.names) cause)) ∨
          ∃ source, file.source = .ok source ∧
            ((∃ fault, Store.parse source = .error fault ∧
                file.examine root =
                  .error (.parse package (root.descend file.names) source fault)) ∨
              ∃ store, Store.parse source = .ok store ∧
                file.examine root = .ok (package, store))) := by
  simp only [examine, packagePath]
  cases root.packagePath? (root.descend file.names) with
  | none => exact Or.inl ⟨rfl, rfl⟩
  | some package =>
      refine Or.inr ⟨package, rfl, ?_⟩
      cases file.source with
      | error cause => exact Or.inl ⟨cause, rfl, rfl⟩
      | ok source =>
          refine Or.inr ⟨source, rfl, ?_⟩
          cases hparse : Store.parse source with
          | error fault => exact Or.inl ⟨fault, rfl, by simp only [hparse]⟩
          | ok store => exact Or.inr ⟨store, rfl, by simp only [hparse]⟩

/-- A file that is read and does not parse. -/
theorem examine_of_fault {root : Path} {file : FoundFile} {package : String}
    {source : ByteArray} {fault : ParseError}
    (hpackage : packagePath root (root.descend file.names) = .ok package)
    (hsource : file.source = .ok source) (hparse : Store.parse source = .error fault) :
    file.examine root = .error (.parse package (root.descend file.names) source fault) := by
  simp only [examine, hpackage, hsource, hparse]

/-- The registry takes what the file adds, whatever it holds. -/
theorem addFile_eq_map_examine (root : Path) (registry : Registry) (file : FoundFile) :
    registry.addFile root file =
      (file.examine root).map fun entry => registry.insert entry.1 entry.2 := by
  simp only [Registry.addFile, examine]
  cases packagePath root (root.descend file.names) with
  | error fault => rfl
  | ok package =>
      cases file.source with
      | error cause => rfl
      | ok source =>
          change (registry.addSource package source).mapError _ = _
          simp only [Registry.addSource]
          cases Store.parse source <;> rfl

end FoundFile

namespace Registry

variable {root : Path} {files : List FoundFile}

theorem mem_of_annotationFiles_eq {before behind : List FoundFile} {file : FoundFile}
    (h : annotationFiles files = before ++ file :: behind) : file ∈ files := by
  have hmem : file ∈ annotationFiles files := by
    rw [h]
    exact List.mem_append_right _ List.mem_cons_self
  exact (List.mem_filter.1 (List.mem_mergeSort.1 hmem)).1

/-- Files that can be added are added one after the other. -/
theorem foldlM_addFile_of_forall_ok
    (h : ∀ file ∈ files, ∃ entry, file.examine root = .ok entry) (registry : Registry) :
    ∃ loaded, files.foldlM (addFile root) registry = .ok loaded := by
  induction files generalizing registry with
  | nil => exact ⟨registry, rfl⟩
  | cons file more ih =>
      obtain ⟨⟨entry, hentry⟩, hmore⟩ := List.forall_mem_cons.1 h
      rw [List.foldlM_cons, FoundFile.addFile_eq_map_examine, hentry]
      exact ih hmore _

/-- **The first file that cannot be added** decides the failure. -/
theorem foldlM_addFile_eq_error_iff {error : LoadError} {registry : Registry} :
    files.foldlM (addFile root) registry = .error error ↔
      ∃ front file back, files = front ++ file :: back ∧
        (∀ earlier ∈ front, ∃ entry, earlier.examine root = .ok entry) ∧
        file.examine root = .error error := by
  constructor
  · intro h
    induction files generalizing registry with
    | nil => cases h
    | cons file more ih =>
        rw [List.foldlM_cons, FoundFile.addFile_eq_map_examine] at h
        cases hfile : file.examine root with
        | error fault =>
            rw [hfile] at h
            cases h
            exact ⟨[], file, more, rfl, by simp, hfile⟩
        | ok entry =>
            rw [hfile] at h
            obtain ⟨front, failing, back, rfl, hfront, hfailing⟩ := ih h
            exact ⟨file :: front, failing, back, rfl,
              List.forall_mem_cons.2 ⟨⟨entry, hfile⟩, hfront⟩, hfailing⟩
  · rintro ⟨front, file, back, rfl, hfront, hfile⟩
    obtain ⟨loaded, hloaded⟩ := foldlM_addFile_of_forall_ok hfront registry
    rw [List.foldlM_append, hloaded]
    simp only [bind, Except.bind]
    rw [List.foldlM_cons, FoundFile.addFile_eq_map_examine, hfile]
    rfl

theorem ofFiles_eq_error_iff {error : LoadError} :
    ofFiles root files = .error error ↔
      ∃ front file back, annotationFiles files = front ++ file :: back ∧
        (∀ earlier ∈ front, ∃ entry, earlier.examine root = .ok entry) ∧
        file.examine root = .error error :=
  foldlM_addFile_eq_error_iff

end Registry
end SymbolAnnotations
