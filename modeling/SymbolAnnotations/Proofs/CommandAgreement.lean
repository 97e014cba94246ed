import SymbolAnnotations.Proofs.CheckRuns
import SymbolAnnotations.Proofs.ParseRun
import SymbolAnnotations.Proofs.TokenStream
import SymbolAnnotations.Proofs.WalkedPaths

/-!
# Agreement of the commands

The commands come to a path by different ways, and say the same of it.  A check of many paths
is made of checks of one path each, and a dump fails exactly where a check does.  A file that
passes a check can be listed as tokens.  And the failure of a directory is, word for word, that
of the first file in it that cannot be added, checked on its own.

* `exists_runCheck_eq_ok_iff`, `runCheck_eq_of_singletons` — a check from the checks of its
  paths;
* `exists_runDump_eq_ok_iff` — a dump and a check;
* `exists_runLex_eq_ok` — a check and the tokens;
* `runDump_first_failure` — a directory and a file in it;
* `commands_agree` — all of it.
-/

namespace SymbolAnnotations
namespace Command

variable {view : FileView} {path root : Path} {paths : List Path} {failure : CommandError}

/-- The message of a command that has failed. -/
def message? : Except CommandError String → Option String
  | .ok _ => none
  | .error failure => some failure.message

/-- A check of one path fails with the message of that path. -/
theorem message?_runCheck_singleton (view : FileView) (path : Path) :
    message? (runCheck view [path]) = failure? view path := by
  rw [runCheck_eq]
  cases hfailure : failure? view path with
  | none => rw [List.filterMap_cons_none hfailure, List.filterMap_nil, if_pos rfl, message?]
  | some message =>
      rw [List.filterMap_cons_some hfailure, List.filterMap_nil, if_neg (List.cons_ne_nil _ _),
        String.intercalate_singleton, message?]

/-- One path is loaded, or its failure is all that a check of it reports. -/
theorem exists_runCheck_singleton_eq_ok_iff :
    (∃ text, runCheck view [path] = .ok text) ↔ ∃ loaded, load view path = .ok loaded := by
  rw [runCheck_eq]
  cases hload : load view path with
  | error failure =>
      rw [List.filterMap_cons_some (failure?_of_error hload), if_neg (List.cons_ne_nil _ _)]
      simp
  | ok loaded =>
      rw [List.filterMap_cons_none (failure?_of_ok hload), List.filterMap_nil, if_pos rfl]
      simp

/-- **A check of many paths** passes if each of them passes it alone. -/
theorem exists_runCheck_eq_ok_iff :
    (∃ text, runCheck view paths = .ok text) ↔
      ∀ path ∈ paths, ∃ text, runCheck view [path] = .ok text := by
  have hpaths : (∃ text, runCheck view paths = .ok text) ↔
      paths.filterMap (failure? view) = [] := by
    rw [runCheck_eq]
    split <;> simp_all
  rw [hpaths, List.filterMap_eq_nil_iff]
  refine forall₂_congr fun path _ => ?_
  rw [exists_runCheck_singleton_eq_ok_iff, failure?]
  cases load view path <;> simp

/-- What a check of many paths says, from the checks of each of them. -/
theorem runCheck_eq_of_singletons (view : FileView) (paths : List Path) :
    (∀ text, runCheck view paths = .ok text →
      text = "✓ " ++ toString paths.length ++ " path(s) checked, no errors\n") ∧
    ∀ failure, runCheck view paths = .error failure →
      failure.exitCode = 1 ∧ failure.message =
        "\n\n".intercalate (paths.filterMap fun path => message? (runCheck view [path])) := by
  simp only [message?_runCheck_singleton]
  rw [runCheck_eq]
  split
  · refine ⟨?_, by simp⟩
    rintro text ⟨⟩
    rfl
  · refine ⟨by simp, ?_⟩
    rintro failure ⟨⟩
    exact ⟨rfl, rfl⟩

/-- **A dump and a check** load the same. -/
theorem exists_runDump_eq_ok_iff (view : FileView) (path : Path) (config : OutputConfig) :
    (∃ text, runDump view path config = .ok text) ↔ ∃ text, runCheck view [path] = .ok text := by
  rw [exists_runCheck_singleton_eq_ok_iff, runDump]
  cases load view path <;> simp [Except.map]

/-- **A check and the tokens.**  A source that parses is well-formed to its end, so that all of
it is tokens. -/
theorem exists_runLex_eq_ok (hfile : ∀ listing, view path ≠ .ok (.directory listing))
    (h : ∃ text, runCheck view [path] = .ok text) : ∃ text, runLex view path = .ok text := by
  obtain ⟨loaded, hload⟩ := exists_runCheck_singleton_eq_ok_iff.1 h
  rw [load_eq_map_loadStore hfile, loadStore] at hload
  cases hsource : readSource view path with
  | error failure =>
      rw [hsource] at hload
      cases hload
  | ok source =>
      rw [hsource] at hload
      cases hparse : Store.parse source with
      | error fault =>
          simp only [bind, Except.bind, hparse] at hload
          cases hload
      | ok store =>
          have htokens := Tokenizer.tokenize_eq source
          rw [if_pos (Store.complete_of_parse_eq_ok hparse)] at htokens
          simp only [runLex, hsource, bind, Except.bind, htokens]
          exact ⟨_, rfl⟩

/-- Every failure of a registry has the same exit code. -/
theorem exitCode_registryFailure (view : FileView) (error : LoadError) :
    (registryFailure view error).exitCode = 1 := by
  cases error with
  | parse package path source fault =>
      rw [registryFailure, readSource]
      cases view.readSource path <;> rfl
  | access path cause => rfl
  | tooLarge path size => rfl
  | invalidPackagePath path => rfl

/-- **A directory and a file in it.**  The first annotation file that cannot be added fails in
the same words by its own path. -/
theorem runDump_first_failure {system : FileSystem} {trail : Trail}
    {files before behind : List FoundFile} {file : FoundFile} {error : LoadError}
    (htrail : system.resolve root = .ok (.directory trail)) (hformed : trail.here.WellFormed)
    (hlook : system.look root = .ok (.directory (.ok files)))
    (hfiles : Registry.annotationFiles files = before ++ file :: behind)
    (hbefore : ∀ earlier ∈ before, ∃ entry, earlier.examine root = .ok entry)
    (hlength : ∀ name ∈ file.names, name.length ≤ FileSystem.maxNameLength)
    (hfile : file.examine root = .error error)
    (hpackage : ∀ path, error ≠ .invalidPackagePath path) (config : OutputConfig) :
    ∃ failure, runDump system.look root config = .error failure ∧
      runCheck system.look [root.descend file.names] = .error failure := by
  have hmem := Registry.mem_of_annotationFiles_eq hfiles
  obtain ⟨hnodirectory, hread⟩ :=
    FileSystem.readSource_descend_of_mem htrail hformed hlook hmem hlength
  have hroot := load_first_failure hlook hfiles hbefore hfile
  have hpath : load system.look (root.descend file.names) =
      .error (registryFailure system.look error) := by
    rw [load_eq_map_loadStore hnodirectory, loadStore_of_examine hread hfile hpackage]
    rfl
  refine ⟨registryFailure system.look error, ?_, ?_⟩
  · rw [runDump, hroot]
    rfl
  · rw [runCheck_singleton hpath, ← exitCode_registryFailure system.look error]

/-- **The commands agree** on every file system: a check of many paths with the checks of each
of them, a dump with a check, the tokens of a file with a check of it, and a directory with the
first file in it that cannot be read, or that is too large, or that does not parse.  The names
in the directory are those that a system can hold: each stands for one entry (`WellFormed`) and
is no longer than a name may be. -/
theorem commands_agree (system : FileSystem) :
    (∀ paths,
      ((∃ text, runCheck system.look paths = .ok text) ↔
        ∀ path ∈ paths, ∃ text, runCheck system.look [path] = .ok text) ∧
      (∀ text, runCheck system.look paths = .ok text →
        text = "✓ " ++ toString paths.length ++ " path(s) checked, no errors\n") ∧
      ∀ failure, runCheck system.look paths = .error failure →
        failure.exitCode = 1 ∧ failure.message = "\n\n".intercalate
          (paths.filterMap fun path => message? (runCheck system.look [path]))) ∧
    (∀ path config, (∃ text, runDump system.look path config = .ok text) ↔
      ∃ text, runCheck system.look [path] = .ok text) ∧
    (∀ path, (∀ listing, system.look path ≠ .ok (.directory listing)) →
      (∃ text, runCheck system.look [path] = .ok text) →
      ∃ text, runLex system.look path = .ok text) ∧
    ∀ root trail files before file behind error,
      system.resolve root = .ok (.directory trail) → trail.here.WellFormed →
      system.look root = .ok (.directory (.ok files)) →
      Registry.annotationFiles files = before ++ file :: behind →
      (∀ earlier ∈ before, ∃ entry, earlier.examine root = .ok entry) →
      (∀ name ∈ file.names, name.length ≤ FileSystem.maxNameLength) →
      file.examine root = .error error → (∀ path, error ≠ .invalidPackagePath path) →
      ∀ config, ∃ failure, runDump system.look root config = .error failure ∧
        runCheck system.look [root.descend file.names] = .error failure := by
  refine ⟨?_, ?_, ?_, ?_⟩
  · intro paths
    exact ⟨exists_runCheck_eq_ok_iff, runCheck_eq_of_singletons system.look paths⟩
  · exact exists_runDump_eq_ok_iff system.look
  · intro path
    exact exists_runLex_eq_ok
  · intro root trail files before file behind error htrail hformed hlook hfiles hbefore hlength
      hfile hpackage config
    exact runDump_first_failure htrail hformed hlook hfiles hbefore hlength hfile hpackage config

end Command
end SymbolAnnotations
