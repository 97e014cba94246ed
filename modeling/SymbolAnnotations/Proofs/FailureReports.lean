import SymbolAnnotations.Proofs.CheckRuns
import SymbolAnnotations.Proofs.PackageNames
import SymbolAnnotations.Proofs.ParseRun
import SymbolAnnotations.Proofs.WalkedPaths

/-!
# What a check reports

A check loads every path that it is given, and its message holds the message of each that
fails.  A file is at fault for its source, so that its report is always there.  A directory
is at fault for the first of its annotation files that cannot be added, and nothing is said
of the files behind that one.

* `Report.exists_text_eq` — how a report depends on the name of its source;
* `runCheck_reports_first_faults` — the reports that are sure to be there;
* `runCheck_passes_over_second_fault` — a report that is not.
-/

namespace SymbolAnnotations

/-- The path that a text spells is shown as that text. -/
@[simp] theorem Path.display_ofString (text : String) : (Path.ofString text).display = text := by
  have hbytes : (Path.ofString text).bytes = FileName.ofString text := rfl
  rw [display, hbytes, FileName.toByteArray_ofString, Utf8.lossy_toByteArray]

/-- The name of a source stands in one place of the report, and nothing else depends on
it. -/
theorem Report.exists_text_eq (source : ByteArray) (fault : ParseError) :
    ∃ front back, ∀ name, Report.text name source fault = front ++ name ++ back := by
  let shown := (Utf8.lossy source).toList
  let lines := excerpt shown fault.span
  let margin := (toString ((lines.getLast?.map (·.number)).getD 0)).length
  let place := placeOf shown fault.span.offset
  let before := [fault.kind.code, ""] ++ messageRows fault.message
  let opening := times (margin + 2) ' ' ++ "╭─["
  let closing := ":" ++ toString place.1 ++ ":" ++ toString place.2 ++ "]"
  let behind := lines.flatMap (lineRows margin fault.span fault.kind.label) ++
    [times (margin + 2) ' ' ++ "╰────"] ++ (fault.kind.help?.map ("  help: " ++ ·)).toList
  have hrows : ∀ name, rows name source fault =
      before ++ (opening ++ name ++ closing) :: behind := by
    intro name
    simp only [rows, before, opening, closing, behind, String.append_assoc, List.append_assoc,
      List.singleton_append]
    rfl
  obtain ⟨front, back, hjoin⟩ := exists_intercalate_eq "\n" before behind
  refine ⟨front ++ opening, closing ++ back, ?_⟩
  intro name
  rw [text, hrows, hjoin]
  simp only [String.append_assoc]

namespace Command

/-- **What is sure to be reported.**  A check fails exactly if it fails on one of its paths
alone.  Its message holds the report on every path that names a malformed source and, for
every path that names a directory, the report on the first annotation file in it that cannot
be added, if that is for a malformed source. -/
theorem runCheck_reports_first_faults (system : FileSystem) (paths : List Path) :
    ((∃ failure, runCheck system.look paths = .error failure) ↔
      ∃ path ∈ paths, ∃ failure, runCheck system.look [path] = .error failure) ∧
    ∀ path ∈ paths,
      (∀ source fault, system.look path = .ok (.file (.ok source)) →
        Store.parse source = .error fault →
        ∃ failure front back, runCheck system.look paths = .error failure ∧
          failure.message = front ++ Report.text path.display source fault ++ back) ∧
      ∀ trail files before file behind package source fault,
        system.resolve path = .ok (.directory trail) → trail.here.WellFormed →
        system.look path = .ok (.directory (.ok files)) →
        Registry.annotationFiles files = before ++ file :: behind →
        (∀ earlier ∈ before, ∃ entry, earlier.examine path = .ok entry) →
        (∀ name ∈ file.names, name.length ≤ FileSystem.maxNameLength) →
        packagePath path (path.descend file.names) = .ok package →
        file.source = .ok source → Store.parse source = .error fault →
        ∃ failure front back, runCheck system.look paths = .error failure ∧
          failure.message =
            front ++ Report.text (path.descend file.names).display source fault ++ back := by
  refine ⟨?_, ?_⟩
  · simp only [runCheck_eq_error_iff, List.mem_singleton, exists_eq_left]
  · intro path hpath
    refine ⟨?_, ?_⟩
    · intro source fault hview hparse
      have hload : load system.look path = .error (.ofFault path source fault) := by
        have hread : system.look.readSource path = .ok source := by
          rw [FileView.readSource, hview]
          rfl
        rw [load_eq_map_loadStore (by simp [hview]), loadStore_of_fault hread hparse]
        rfl
      exact runCheck_of_failure? hpath (failure?_of_error hload)
    · intro trail files before file behind package source fault htrail hformed hview hfiles
        hbefore hlength hpackage hsource hparse
      have hfile := FoundFile.examine_of_fault hpackage hsource hparse
      have hmem : file ∈ files := Registry.mem_of_annotationFiles_eq hfiles
      obtain ⟨-, hread⟩ :=
        FileSystem.readSource_descend_of_mem htrail hformed hview hmem hlength
      rw [hsource] at hread
      have hload := load_first_failure hview hfiles hbefore hfile
      rw [registryFailure_parse hread] at hload
      exact runCheck_of_failure? hpath (failure?_of_error hload)

/-- **The second of two malformed files** in a directory is found, and is not reported. -/
theorem runCheck_passes_over_second_fault :
    let first := FileName.ofString "a.sgoann"
    let second := FileName.ofString "bb.sgoann"
    let source := "T ;".toByteArray
    let here := Directory.file first (.bytes source) (.file second (.bytes source) .empty)
    let system : FileSystem := ⟨.subdirectory (FileName.ofString "anns") here .empty, []⟩
    ∃ fault failure, Store.parse source = .error fault ∧
      system.look (Path.ofString "anns") =
        .ok (.directory (.ok [⟨[first], .ok source⟩, ⟨[second], .ok source⟩])) ∧
      (∀ name ∈ [first, second], name.isSource = true) ∧
      runCheck system.look [Path.ofString "anns"] = .error failure ∧
      ¬ ∃ front back, failure.message =
        front ++ Report.text ((Path.ofString "anns").descend [second]).display source fault ++
          back := by
  intro first second source here system
  obtain ⟨fault, hparse⟩ : ∃ fault, Store.parse source = .error fault := by
    have hrun : ({} : Source.Reading).run {} (Utf8.decode source).runes =
        .error (.unexpected { rune := ';', position := ⟨1, 3, 2, 2⟩ } .signature) := by
      rw [Utf8.decode_toByteArray]
      decide +kernel
    exact ⟨_, Store.parse_eq_error hrun⟩
  obtain ⟨hanns, hlength⟩ : (FileName.ofString "anns").IsProper ∧
      (FileName.ofString "anns").length ≤ FileSystem.maxNameLength := by
    decide +kernel
  have hresolve : system.resolve (Path.ofString "anns") =
      .ok (.directory ⟨here, [(FileName.ofString "anns", system.top)]⟩) := by
    have hrefusal : FileSystem.refusal? (Path.ofString "anns") = none := by decide +kernel
    have habsolute : ¬ (Path.ofString "anns").isAbsolute = true := by decide +kernel
    have hpieces : (Path.ofString "anns").pieces = [FileName.ofString "anns"] := by decide +kernel
    have hnode : (Trail.mk system.top []).here.node? (FileName.ofString "anns") =
        some (.directory here) :=
      if_pos rfl
    simp only [FileSystem.resolve, hrefusal, FileSystem.start, if_neg habsolute, hpieces]
    exact (FileSystem.resolveFrom_enter hanns hlength hnode).trans (by
      rw [FileSystem.resolveFrom, Trail.enter])
  have hlook : system.look (Path.ofString "anns") =
      .ok (.directory (.ok [⟨[first], .ok source⟩, ⟨[second], .ok source⟩])) := by
    obtain ⟨hfirst, hsecond⟩ : FileSystem.refusal? ((Path.ofString "anns").child first) = none ∧
        FileSystem.refusal? ((Path.ofString "anns").child second) = none := by
      decide +kernel
    simp only [FileSystem.look, hresolve, here, FileSystem.filesFrom, FileSystem.readAs, hfirst,
      hsecond]
    rfl
  have hformed : here.WellFormed := by
    obtain ⟨hfirst, hsecond, hne⟩ : first.IsProper ∧ second.IsProper ∧ second ≠ first := by
      decide +kernel
    exact ⟨hfirst, if_neg hne, hsecond, rfl, trivial⟩
  have hnames : ∀ name ∈ [first, second], name.isSource = true := by decide +kernel
  have hfiles : Registry.annotationFiles
      [⟨[first], .ok source⟩, ⟨[second], .ok source⟩] =
        [] ++ ⟨[first], .ok source⟩ :: [⟨[second], .ok source⟩] := by
    have horder : (compare [first] [second]).isLE = true := by decide +kernel
    have hsorted : [(⟨[first], .ok source⟩ : FoundFile), ⟨[second], .ok source⟩].Pairwise
        fun a b => FoundFile.le a b = true := by
      simpa [FoundFile.le] using horder
    obtain ⟨hfirst, hsecond⟩ := List.forall_mem_cons.1 hnames
    rw [Registry.annotationFiles,
      List.filter_eq_self.2 (by simpa [FoundFile.isSource] using hnames),
      List.mergeSort_of_pairwise hsorted]
    rfl
  obtain ⟨package, hpackage, -⟩ := @exists_package_of_file (Path.ofString "anns") [] "a.sgoann"
    (by decide +kernel) (hnames first (by simp))
  have hfile : FoundFile.examine (Path.ofString "anns") ⟨[first], .ok source⟩ =
      .error (.parse package ((Path.ofString "anns").descend [first]) source fault) :=
    FoundFile.examine_of_fault hpackage rfl hparse
  obtain ⟨-, hread⟩ := FileSystem.readSource_descend_of_mem hresolve hformed hlook
    List.mem_cons_self (by decide +kernel : ∀ name ∈ [first], name.length ≤ _)
  have hload := load_first_failure hlook hfiles (by simp) hfile
  rw [registryFailure_parse hread] at hload
  refine ⟨fault, _, hparse, hlook, hnames, runCheck_singleton hload, ?_⟩
  · rintro ⟨front, back, hmessage⟩
    obtain ⟨opening, closing, htext⟩ := Report.exists_text_eq source fault
    obtain ⟨hfirst, hsecond⟩ :
        (Path.ofString "anns").descend [first] = Path.ofString "anns/a.sgoann" ∧
          (Path.ofString "anns").descend [second] = Path.ofString "anns/bb.sgoann" := by
      decide +kernel
    change Report.text ((Path.ofString "anns").descend [first]).display source fault = _ at hmessage
    have hlength := congrArg String.length hmessage
    simp only [hfirst, hsecond, Path.display_ofString, htext, String.length_append] at hlength
    have hlonger : "anns/a.sgoann".length < "anns/bb.sgoann".length := by decide
    omega

end Command
end SymbolAnnotations
