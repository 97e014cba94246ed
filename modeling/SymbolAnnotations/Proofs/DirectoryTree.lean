import Mathlib.Data.List.Nodup
import SymbolAnnotations.File.System
import SymbolAnnotations.Proofs.PathsBelow
import SymbolAnnotations.Registry.Load

/-!
# The annotation files of a directory tree

A directory tree says what every sequence of names leads to, whatever the order in which
its directories list their entries.  The walk over the tree finds each annotation file
once, with the names that lead to it and with what it holds, and passes by everything
else: other files, links, and whatever is behind a link.

* `resolveFrom_stay`, `resolveFrom_enter` — how a path leads to a directory;
* `mem_sources_iff` — what the walk finds is what names lead to;
* `nodup_names_sources` — and it finds it only once;
* `exists_filesFrom_eq` — what a program sees of a tree that can be read.
-/

namespace SymbolAnnotations

/-- A file of a tree, with the names that lead to it. -/
structure TreeFile where
  names : List FileName
  content : Content

namespace TreeFile

/-- Whether the file is an annotation file. -/
def isSource (file : TreeFile) : Bool :=
  file.names.getLast?.any FileName.isSource

/-- The file as seen from outside of a directory. -/
def under (name : FileName) (file : TreeFile) : TreeFile :=
  { file with names := name :: file.names }

/-- It is the file's own name that counts. -/
theorem isSource_under (name : FileName) {names : List FileName} {content : Content}
    (hne : names ≠ []) : (mk (name :: names) content).isSource = (mk names content).isSource := by
  obtain ⟨first, rest, rfl⟩ := List.exists_cons_of_ne_nil hne
  rw [isSource, isSource, List.getLast?_cons_cons]

/-- What a program sees of the file. -/
def found (file : TreeFile) : FoundFile :=
  ⟨file.names, file.content.source⟩

end TreeFile

namespace FileSystem

variable {links : Nat} {trail : Trail} {piece : FileName} {rest : List FileName}

/-- Nothing is behind a piece that stays where it is. -/
theorem resolveFrom_stay (h : piece = [] ∨ piece = [Path.dot]) :
    resolveFrom links trail (piece :: rest) = resolveFrom links trail rest := by
  rw [resolveFrom, if_pos h]

/-- The name of a directory leads down. -/
theorem resolveFrom_enter {inner : Directory} (hproper : piece.IsProper)
    (hlength : piece.length ≤ maxNameLength)
    (hnode : trail.here.node? piece = some (.directory inner)) :
    resolveFrom links trail (piece :: rest) =
      resolveFrom links (trail.enter piece inner) rest := by
  have hstays : ¬ (piece = [] ∨ piece = [Path.dot]) := not_or.2 ⟨hproper.ne_nil, hproper.ne_dots.1⟩
  rw [resolveFrom, if_neg hstays, if_neg hproper.ne_dots.2, if_neg (Nat.not_lt.2 hlength), hnode]

end FileSystem

namespace Directory

/-- The file that names lead to, through directories and not through links. -/
def file? (directory : Directory) : List FileName → Option Content
  | [] => none
  | name :: rest =>
    match directory.node? name with
    | some (.file content) => if rest = [] then some content else none
    | some (.directory inner) => inner.file? rest
    | _ => none

/-- Every entry has a name of its own, and one that can be listed. -/
def WellFormed : Directory → Prop
  | empty => True
  | file name _ others | link name _ others =>
    name.IsProper ∧ others.node? name = none ∧ others.WellFormed
  | subdirectory name inner others =>
    name.IsProper ∧ others.node? name = none ∧ inner.WellFormed ∧ others.WellFormed

/-- The annotation files, in the order in which the walk finds them. -/
def sources : Directory → List TreeFile
  | empty => []
  | file name content others =>
    if name.isSource then ⟨[name], content⟩ :: others.sources else others.sources
  | link _ _ others => others.sources
  | subdirectory name inner others => inner.sources.map (.under name) ++ others.sources

/-- The names that lead to the directories and the annotation files below. -/
def places : Directory → List (List FileName)
  | empty => []
  | file name _ others => if name.isSource then [name] :: others.places else others.places
  | link _ _ others => others.places
  | subdirectory name inner others => [name] :: inner.places.map (name :: ·) ++ others.places

variable {directory inner others : Directory} {name : FileName}

/-- An entry is entered by its name, and the others by other names. -/
theorem file?_cons (node : Node) {first : FileName} {rest : List FileName} :
    (cons name node others).file? (first :: rest) =
      if name = first then
        match node with
        | .file content => if rest = [] then some content else none
        | .link _ => none
        | .directory inner => inner.file? rest
      else others.file? (first :: rest) := by
  rw [file?, node?_cons]
  by_cases hfirst : name = first
  · rw [if_pos hfirst, if_pos hfirst]
    cases node <;> rfl
  · rw [if_neg hfirst, if_neg hfirst]
    rfl

theorem file?_file (content : Content) {first : FileName} {rest : List FileName} :
    (file name content others).file? (first :: rest) =
      if name = first then if rest = [] then some content else none
      else others.file? (first :: rest) :=
  file?_cons (.file content)

theorem file?_link (target : Path) {first : FileName} {rest : List FileName} :
    (link name target others).file? (first :: rest) =
      if name = first then none else others.file? (first :: rest) :=
  file?_cons (.link target)

theorem file?_subdirectory {first : FileName} {rest : List FileName} :
    (subdirectory name inner others).file? (first :: rest) =
      if name = first then inner.file? rest else others.file? (first :: rest) :=
  file?_cons (.directory inner)

theorem file?_of_node?_eq_none {rest : List FileName} (h : directory.node? name = none) :
    directory.file? (name :: rest) = none := by
  simp [file?, h]

theorem ne_nil_of_file? {names : List FileName} {content : Content}
    (h : directory.file? names = some content) : names ≠ [] := by
  rintro rfl
  cases h

theorem mem_sources_file {content : Content} {file : TreeFile} :
    file ∈ (Directory.file name content others).sources ↔
      name.isSource = true ∧ file = ⟨[name], content⟩ ∨ file ∈ others.sources := by
  rw [sources]
  split <;> simp_all

theorem mem_sources_subdirectory {file : TreeFile} :
    file ∈ (subdirectory name inner others).sources ↔
      (∃ below ∈ inner.sources, below.under name = file) ∨ file ∈ others.sources := by
  rw [sources, List.mem_append, List.mem_map]

/-- **What the walk finds** is what names lead to. -/
theorem mem_sources_iff (h : directory.WellFormed) {file : TreeFile} :
    file ∈ directory.sources ↔
      directory.file? file.names = some file.content ∧ file.isSource = true := by
  obtain ⟨names, found⟩ := file
  induction directory generalizing names with
  | empty => cases names <;> simp [sources, file?, node?]
  | file name content others ih =>
      obtain ⟨-, hfresh, hothers⟩ := h
      rw [mem_sources_file, ih hothers]
      cases names with
      | nil => simp [file?]
      | cons first rest =>
          rw [file?_file]
          by_cases hfirst : name = first
          · subst hfirst
            rw [if_pos rfl, file?_of_node?_eq_none hfresh]
            constructor
            · rintro (⟨hsource, hfile⟩ | ⟨habsurd, -⟩)
              · cases hfile
                exact ⟨rfl, hsource⟩
              · cases habsurd
            · rintro ⟨hcontent, hsource⟩
              split at hcontent
              · rename_i hrest
                subst hrest
                cases hcontent
                exact Or.inl ⟨hsource, rfl⟩
              · cases hcontent
          · simp [hfirst, Ne.symm hfirst]
  | link name target others ih =>
      obtain ⟨-, hfresh, hothers⟩ := h
      rw [sources, ih hothers]
      cases names with
      | nil => simp [file?]
      | cons first rest =>
          rw [file?_link]
          by_cases hfirst : name = first
          · subst hfirst
            rw [if_pos rfl, file?_of_node?_eq_none hfresh]
          · rw [if_neg hfirst]
  | subdirectory name inner others ihInner ih =>
      obtain ⟨-, hfresh, hinner, hothers⟩ := h
      rw [mem_sources_subdirectory, ih hothers]
      cases names with
      | nil => simp [file?, TreeFile.under]
      | cons first rest =>
          rw [file?_subdirectory]
          by_cases hfirst : name = first
          · subst hfirst
            rw [if_pos rfl, file?_of_node?_eq_none hfresh]
            have hsame (hcontent : inner.file? rest = some found) :
                (TreeFile.mk (name :: rest) found).isSource = (TreeFile.mk rest found).isSource :=
              TreeFile.isSource_under name (ne_nil_of_file? hcontent)
            constructor
            · rintro (⟨⟨rest', content⟩, hmem, heq⟩ | ⟨habsurd, -⟩)
              · cases heq
                obtain ⟨hcontent, hsource⟩ := (ihInner hinner _).1 hmem
                exact ⟨hcontent, (hsame hcontent).trans hsource⟩
              · cases habsurd
            · rintro ⟨hcontent, hsource⟩
              have hmem := (ihInner hinner rest).2 ⟨hcontent, (hsame hcontent).symm.trans hsource⟩
              exact Or.inl ⟨_, hmem, rfl⟩
          · simp [hfirst, TreeFile.under]

/-- Every name on the way to a file can be listed. -/
theorem isProper_of_mem_sources (h : directory.WellFormed) {file : TreeFile}
    (hmem : file ∈ directory.sources) : ∀ name ∈ file.names, name.IsProper := by
  induction directory generalizing file with
  | empty => cases hmem
  | file first content others ih =>
      obtain ⟨hname, -, hothers⟩ := h
      rw [sources] at hmem
      split at hmem
      · rcases List.mem_cons.1 hmem with rfl | hmem
        · simpa using hname
        · exact ih hothers hmem
      · exact ih hothers hmem
  | link first target others ih =>
      obtain ⟨-, -, hothers⟩ := h
      exact ih hothers hmem
  | subdirectory first inner others ihInner ih =>
      obtain ⟨hname, -, hinner, hothers⟩ := h
      rcases List.mem_append.1 hmem with hmem | hmem
      · obtain ⟨below, hbelow, rfl⟩ := List.mem_map.1 hmem
        exact List.forall_mem_cons.2 ⟨hname, ihInner hinner hbelow⟩
      · exact ih hothers hmem

theorem names_not_mem_of_node?_eq_none (h : directory.WellFormed)
    (hfresh : directory.node? name = none) (rest : List FileName) :
    name :: rest ∉ directory.sources.map (·.names) := by
  intro hmem
  obtain ⟨file, hfile, hnames⟩ := List.mem_map.1 hmem
  have hcontent := ((mem_sources_iff h).1 hfile).1
  rw [hnames, file?_of_node?_eq_none hfresh] at hcontent
  cases hcontent

/-- No two files are found under the same names. -/
theorem nodup_names_sources (h : directory.WellFormed) :
    (directory.sources.map (·.names)).Nodup := by
  induction directory with
  | empty => exact List.nodup_nil
  | file name content others ih =>
      obtain ⟨-, hfresh, hothers⟩ := h
      rw [sources]
      split
      · exact List.nodup_cons.2
          ⟨names_not_mem_of_node?_eq_none hothers hfresh [], ih hothers⟩
      · exact ih hothers
  | link name target others ih =>
      obtain ⟨-, hfresh, hothers⟩ := h
      exact ih hothers
  | subdirectory name inner others ihInner ih =>
      obtain ⟨-, hfresh, hinner, hothers⟩ := h
      have hunder : (inner.sources.map (TreeFile.under name)).map (·.names) =
          (inner.sources.map (·.names)).map (name :: ·) := by
        rw [List.map_map, List.map_map]
        rfl
      have hinside := List.Nodup.map (List.cons_injective : Function.Injective (name :: ·))
        (ihInner hinner)
      rw [sources, List.map_append, hunder, List.nodup_append]
      refine ⟨hinside, ih hothers, ?_⟩
      rintro names hnames other hother rfl
      obtain ⟨rest, -, rfl⟩ := List.mem_map.1 hnames
      exact names_not_mem_of_node?_eq_none hothers hfresh rest hother

/-- **What a program sees of a tree.**  If the system refuses none of the directories and
annotation files below, then all of these files are seen, each as its source. -/
theorem exists_filesFrom_eq (root : Path) (h : directory.WellFormed) {names : List FileName}
    (hnames : ∀ name ∈ names, name.IsProper)
    (hread : ∀ below ∈ directory.places,
      FileSystem.refusal? (root.descend (names ++ below)) = none) :
    ∃ files, FileSystem.filesFrom (root.descend names) names directory = .ok files ∧
      files.filter (·.isSource) =
        directory.sources.map fun file => ⟨names ++ file.names, file.content.source⟩ := by
  induction directory generalizing names with
  | empty => exact ⟨[], rfl, rfl⟩
  | file name content others ih =>
      obtain ⟨-, -, hothers⟩ := h
      rw [places] at hread
      by_cases hsource : name.isSource = true
      · rw [if_pos hsource, List.forall_mem_cons] at hread
        obtain ⟨hhere, hread⟩ := hread
        obtain ⟨files, hfiles, hfilter⟩ := ih hothers hnames hread
        refine ⟨⟨names ++ [name], content.source⟩ :: files, ?_, ?_⟩
        · rw [FileSystem.filesFrom, hfiles, Path.descend_concat root hnames, FileSystem.readAs,
            hhere]
          rfl
        · rw [List.filter_cons_of_pos, hfilter, sources, if_pos hsource]
          · rfl
          · simpa [FoundFile.isSource] using hsource
      · rw [if_neg hsource] at hread
        obtain ⟨files, hfiles, hfilter⟩ := ih hothers hnames hread
        refine ⟨_ :: files, by rw [FileSystem.filesFrom, hfiles]; rfl, ?_⟩
        rw [List.filter_cons_of_neg, hfilter, sources, if_neg hsource]
        simpa [FoundFile.isSource] using hsource
  | link name target others ih =>
      obtain ⟨-, -, hothers⟩ := h
      exact ih hothers hnames hread
  | subdirectory name inner others ihInner ih =>
      obtain ⟨hname, -, hinner, hothers⟩ := h
      rw [places, List.cons_append, List.forall_mem_cons, List.forall_mem_append,
        List.forall_mem_map] at hread
      obtain ⟨hhere, hbelow, hread⟩ := hread
      have hnames' : ∀ other ∈ names ++ [name], other.IsProper :=
        List.forall_mem_append.2 ⟨hnames, List.forall_mem_singleton.2 hname⟩
      have hbelow' : ∀ below ∈ inner.places,
          FileSystem.refusal? (root.descend (names ++ [name] ++ below)) = none := by
        simpa using hbelow
      obtain ⟨inside, hinside, hfilter'⟩ := ihInner hinner hnames' hbelow'
      obtain ⟨files, hfiles, hfilter⟩ := ih hothers hnames hread
      refine ⟨inside ++ files, ?_, ?_⟩
      · rw [FileSystem.filesFrom, Path.descend_concat root hnames, hhere, hinside, hfiles]
        rfl
      · rw [List.filter_append, hfilter', hfilter, sources, List.map_append, List.map_map]
        congr 1
        refine List.map_congr_left ?_
        intro file _
        simp [TreeFile.under]

end Directory
end SymbolAnnotations
