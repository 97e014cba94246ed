import SymbolAnnotations.Command.Run
import SymbolAnnotations.Proofs.FoundFiles

/-!
# Checks of several paths

A check takes its paths one after the other.  Each of them is counted or reported, and what
becomes of it does not depend on those before it.  So the check of many paths is put together
from checks of each of them alone.

Of a directory only the first annotation file counts that cannot be added.  If its source is at
fault, the source is read once more for the report; where a file shows the same source by its
path as it did in its directory, its failure is the failure of the path.

* `foldl_checkNext` — every path is counted or reported;
* `runCheck_of_failure?` — the message of every path that fails is reported;
* `load_first_failure` — a directory fails with its first file that cannot be added;
* `loadStore_of_examine` — and so does the path of that file.
-/

namespace SymbolAnnotations

/-- A text that is joined with others stands in one place, whatever it is. -/
theorem exists_intercalate_eq (separator : String) (before behind : List String) :
    ∃ front back, ∀ text,
      separator.intercalate (before ++ text :: behind) = front ++ text ++ back := by
  obtain ⟨back, hback⟩ : ∃ back, ∀ text,
      separator.intercalate (text :: behind) = text ++ back := by
    cases behind with
    | nil => exact ⟨"", by simp⟩
    | cons next rest =>
        refine ⟨separator ++ separator.intercalate (next :: rest), ?_⟩
        intro text
        rw [String.intercalate_cons_cons, String.append_assoc]
  by_cases hbefore : before = []
  · exact ⟨"", back, by simp [hbefore, hback]⟩
  · refine ⟨separator.intercalate before ++ separator, back, ?_⟩
    intro text
    rw [String.intercalate_append_of_ne_nil hbefore (List.cons_ne_nil _ _), hback]
    simp [String.append_assoc]

namespace Command

variable {view : FileView} {path root : Path} {paths : List Path} {failure : CommandError}

/-- The message of the failure to load a path, if it fails. -/
def failure? (view : FileView) (path : Path) : Option String :=
  match load view path with
  | .ok _ => none
  | .error failure => some failure.message

theorem failure?_of_ok {loaded : Loaded} (h : load view path = .ok loaded) :
    failure? view path = none := by
  rw [failure?, h]

theorem failure?_of_error (h : load view path = .error failure) :
    failure? view path = some failure.message := by
  rw [failure?, h]

/-- A path that is loaded is counted. -/
theorem checkNext_of_ok {loaded : Loaded} (h : load view path = .ok loaded) (checked : Checked) :
    (checkNext view checked path).count = checked.count + 1 ∧
      (checkNext view checked path).failures = checked.failures := by
  rw [checkNext, h]
  exact ⟨rfl, rfl⟩

/-- A path that fails is reported behind those that have failed. -/
theorem checkNext_of_error (h : load view path = .error failure) (checked : Checked) :
    (checkNext view checked path).count = checked.count ∧
      (checkNext view checked path).failures = checked.failures ++ [failure.message] := by
  rw [checkNext, h]
  exact ⟨rfl, rfl⟩

/-- **Counted or reported.**  The reports come in the order of the paths that they are on, and
every other path is counted. -/
theorem foldl_checkNext (view : FileView) (paths : List Path) (checked : Checked) :
    (paths.foldl (checkNext view) checked).failures =
        checked.failures ++ paths.filterMap (failure? view) ∧
      (paths.foldl (checkNext view) checked).count + (paths.filterMap (failure? view)).length =
        checked.count + paths.length := by
  induction paths generalizing checked with
  | nil => exact ⟨(List.append_nil _).symm, rfl⟩
  | cons path more ih =>
      obtain ⟨hfailures, hcount⟩ := ih (checkNext view checked path)
      rw [List.foldl_cons, List.length_cons]
      cases hload : load view path with
      | ok loaded =>
          obtain ⟨hnext, hfound⟩ := checkNext_of_ok hload checked
          rw [hnext] at hcount
          rw [List.filterMap_cons_none (failure?_of_ok hload)]
          exact ⟨hfound ▸ hfailures, by omega⟩
      | error failure =>
          obtain ⟨hnext, hfound⟩ := checkNext_of_error hload checked
          rw [hnext] at hcount
          rw [hfound, List.append_assoc, List.singleton_append] at hfailures
          rw [List.filterMap_cons_some (failure?_of_error hload), List.length_cons]
          exact ⟨hfailures, by omega⟩

/-- What a check says, from the failures of its paths. -/
theorem runCheck_eq (view : FileView) (paths : List Path) :
    runCheck view paths =
      if paths.filterMap (failure? view) = [] then
        .ok ("✓ " ++ toString paths.length ++ " path(s) checked, no errors\n")
      else
        .error { message := "\n\n".intercalate (paths.filterMap (failure? view)) } := by
  obtain ⟨hfailures, hcount⟩ := foldl_checkNext view paths {}
  rw [List.nil_append] at hfailures
  simp only [runCheck, hfailures, List.isEmpty_iff]
  split
  · rename_i hnone
    have hall : (paths.foldl (checkNext view) {}).count = paths.length := by
      simpa [hnone] using hcount
    rw [hall]
  · rfl

/-- One path that fails is all that is reported. -/
theorem runCheck_singleton (h : load view path = .error failure) :
    runCheck view [path] = .error { message := failure.message } := by
  rw [runCheck_eq, List.filterMap_cons_some (failure?_of_error h), List.filterMap_nil,
    if_neg (List.cons_ne_nil _ _), String.intercalate_singleton]

/-- A check fails if one of its paths does. -/
theorem runCheck_eq_error_iff :
    (∃ failure, runCheck view paths = .error failure) ↔
      ∃ path ∈ paths, (failure? view path).isSome = true := by
  rw [runCheck_eq]
  by_cases hnone : paths.filterMap (failure? view) = []
  · rw [if_pos hnone]
    refine iff_of_false (by simp) ?_
    rintro ⟨path, hpath, hfailure⟩
    rw [List.filterMap_eq_nil_iff.1 hnone path hpath] at hfailure
    cases hfailure
  · rw [if_neg hnone]
    obtain ⟨message, hmessage⟩ := List.exists_mem_of_ne_nil _ hnone
    obtain ⟨path, hpath, hfailure⟩ := List.mem_filterMap.1 hmessage
    exact iff_of_true ⟨_, rfl⟩ ⟨path, hpath, Option.isSome_of_eq_some hfailure⟩

/-- **Every path that fails is reported.** -/
theorem runCheck_of_failure? {message : String} (hpath : path ∈ paths)
    (h : failure? view path = some message) :
    ∃ failure front back, runCheck view paths = .error failure ∧
      failure.message = front ++ message ++ back := by
  have hmem : message ∈ paths.filterMap (failure? view) := List.mem_filterMap.2 ⟨path, hpath, h⟩
  obtain ⟨before, behind, hsplit⟩ := List.append_of_mem hmem
  obtain ⟨front, back, hjoin⟩ := exists_intercalate_eq "\n\n" before behind
  rw [runCheck_eq, if_neg (List.ne_nil_of_mem hmem)]
  exact ⟨_, front, back, rfl, by rw [hsplit, hjoin]⟩

/-- What names no directory is loaded as one source. -/
theorem load_eq_map_loadStore (h : ∀ listing, view path ≠ .ok (.directory listing)) :
    load view path = (loadStore view path).map .store := by
  rw [load]
  split
  · rename_i listing hview
    exact absurd hview (h listing)
  · rfl

/-- A source that can be read and does not parse. -/
theorem loadStore_of_fault {source : ByteArray} {fault : ParseError}
    (hread : view.readSource path = .ok source) (hparse : Store.parse source = .error fault) :
    loadStore view path = .error (.ofFault path source fault) := by
  rw [loadStore, readSource, hread]
  change (Store.parse source).mapError (CommandError.ofFault path source) = _
  rw [hparse]
  rfl

/-- **The first file that cannot be added** is the failure of its directory. -/
theorem load_first_failure {files before behind : List FoundFile} {file : FoundFile}
    {error : LoadError} (hview : view root = .ok (.directory (.ok files)))
    (hfiles : Registry.annotationFiles files = before ++ file :: behind)
    (hbefore : ∀ earlier ∈ before, ∃ entry, earlier.examine root = .ok entry)
    (hfile : file.examine root = .error error) :
    load view root = .error (registryFailure view error) := by
  have hload := Registry.ofFiles_eq_error_iff.2 ⟨before, file, behind, hfiles, hbefore, hfile⟩
  simp only [load, hview, loadRegistry, Registry.ofListing]
  rw [hload]
  rfl

/-- The source at fault is shown as it is read by its path. -/
theorem registryFailure_parse {package : String} {source again : ByteArray} {fault : ParseError}
    (hread : view.readSource path = .ok again) :
    registryFailure view (.parse package path source fault) = .ofFault path again fault := by
  simp only [registryFailure, readSource, hread]
  rfl

/-- **The failure of a file in a directory** is the failure of its path, if the path shows what
the directory has shown, unless there is no package for the file. -/
theorem loadStore_of_examine {file : FoundFile} {error : LoadError}
    (hread : view.readSource (root.descend file.names) =
      file.source.mapError (.ofReadError (root.descend file.names)))
    (hfile : file.examine root = .error error)
    (hpackage : ∀ path, error ≠ .invalidPackagePath path) :
    loadStore view (root.descend file.names) = .error (registryFailure view error) := by
  rcases file.examine_cases root with
    ⟨-, hcase⟩ | ⟨package, -, ⟨cause, hsource, hcase⟩ | ⟨source, hsource,
      ⟨fault, hparse, hcase⟩ | ⟨store, -, hcase⟩⟩⟩
  · rw [hcase] at hfile
    cases hfile
    exact absurd rfl (hpackage _)
  · rw [hcase] at hfile
    cases hfile
    rw [hsource] at hread
    rw [loadStore, readSource, hread]
    cases cause <;> rfl
  · rw [hcase] at hfile
    cases hfile
    rw [hsource] at hread
    rw [loadStore_of_fault hread hparse, registryFailure_parse hread]
  · rw [hcase] at hfile
    cases hfile

end Command
end SymbolAnnotations
