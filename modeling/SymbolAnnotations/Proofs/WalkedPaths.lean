import SymbolAnnotations.Proofs.DirectoryTree

/-!
# Paths of files that a walk has found

A walk finds a file by the names that lead to it from a root directory.  The path that it puts
together, the root with these names behind it, leads to the same file again: whatever links are
on the way to the root, they are followed as before, and none of the names behind it is a link.
So a program that opens the path sees what the walk has seen.

* `resolveFrom_append` — a path is resolved in two parts;
* `resolve_descend` — the names of a file lead to it from the end of another path;
* `exists_of_mem_filesFrom` — what a walk finds is in the tree;
* `readSource_descend_of_mem` — a file that was found is read again by its path.
-/

namespace SymbolAnnotations

/-- The pieces of a path with names behind it.  Those of the path come first, without the
empty one that a slash leaves at its end. -/
theorem Path.pieces_descend (root : Path) {names : List FileName} (hroot : root.bytes ≠ [])
    (hne : names ≠ []) (h : ∀ name ∈ names, slash ∉ name) :
    ∃ front, (root.pieces = front ∨ root.pieces = front ++ [[]]) ∧
      (root.descend names).pieces = front ++ names ∧
      (root.descend names).isAbsolute = root.isAbsolute := by
  obtain ⟨bytes⟩ := root
  have hpieces := piecesOf_intercalate hne h
  obtain ⟨outer, last, rfl⟩ := (List.eq_nil_or_concat' bytes).resolve_left hroot
  rw [descend_of_ne_nil _ hne]
  have habsolute (more : List UInt8) :
      (Path.mk (outer ++ [last] ++ more)).isAbsolute = (Path.mk (outer ++ [last])).isAbsolute := by
    cases outer <;> rfl
  by_cases hlast : last = slash
  · subst hlast
    have hchild : (Path.mk (outer ++ [slash])).child (List.intercalate [slash] names) =
        ⟨outer ++ [slash] ++ List.intercalate [slash] names⟩ := by
      simp [child]
    refine ⟨piecesOf outer, Or.inr (piecesOf_append_slash outer []), ?_, ?_⟩
    · rw [hchild, pieces, List.append_assoc, List.singleton_append, piecesOf_append_slash, hpieces]
    · rw [hchild, habsolute]
  · have hchild : (Path.mk (outer ++ [last])).child (List.intercalate [slash] names) =
        ⟨outer ++ [last] ++ slash :: List.intercalate [slash] names⟩ := by
      simp [child, hlast]
    refine ⟨_, Or.inl rfl, ?_, ?_⟩
    · rw [hchild, pieces, piecesOf_append_slash, hpieces, pieces]
    · rw [hchild, habsolute]

variable {system : FileSystem} {links : Nat} {trail : Trail} {root : Path}
  {names : List FileName} {content : Content} {files : List FoundFile} {file : FoundFile}

namespace FileSystem

/-- **In two parts.**  More of a path leads on from the directory that its beginning leads to,
with as many links left as that leaves.  If the beginning leads to no directory, then nothing
behind it leads anywhere. -/
theorem resolveFrom_append (links : Nat) (trail : Trail) (front : List FileName) :
    (∃ left found, ∀ back,
        resolveFrom links trail (front ++ back) = resolveFrom left found back) ∨
      (∀ found, resolveFrom links trail front ≠ .ok (.directory found)) ∧
        ∃ cause, ∀ back ≠ [], resolveFrom links trail (front ++ back) = .error cause := by
  -- one step leads to the same place whatever is behind it, and a link puts its own pieces there
  fun_induction resolveFrom links trail front with
  | case1 links trail => exact Or.inl ⟨links, trail, fun back => rfl⟩
  | case2 links trail piece rest hstay ih =>
      simpa only [List.cons_append, resolveFrom_stay hstay] using ih
  | case3 links trail rest hstay ih =>
      have hstep (back : List FileName) : resolveFrom links trail ([Path.dot, Path.dot] :: back) =
          resolveFrom links trail.leave back := by
        rw [resolveFrom, if_neg hstay, if_pos rfl]
      simpa only [List.cons_append, hstep] using ih
  | case4 links trail piece rest hstay hparent hlength =>
      refine Or.inr ⟨by simp, .nameTooLong, ?_⟩
      intro back _
      rw [List.cons_append, resolveFrom, if_neg hstay, if_neg hparent, if_pos hlength]
  | case5 links trail piece rest hstay hparent hlength hnode =>
      refine Or.inr ⟨by simp, .notFound, ?_⟩
      intro back _
      rw [List.cons_append, resolveFrom, if_neg hstay, if_neg hparent, if_neg hlength, hnode]
  | case6 links trail piece rest hstay hparent hlength inner hnode ih =>
      have hstep (back : List FileName) : resolveFrom links trail (piece :: back) =
          resolveFrom links (trail.enter piece inner) back := by
        rw [resolveFrom, if_neg hstay, if_neg hparent, if_neg hlength, hnode]
      simpa only [List.cons_append, hstep] using ih
  | case7 links trail piece rest hstay hparent hlength content hnode _
  | case8 links trail piece rest hstay hparent hlength content hnode _ =>
      -- a file has nothing behind it, whether it was the last piece before or not
      refine Or.inr ⟨by simp, .notADirectory, ?_⟩
      intro back hback
      have hmore : ¬ (rest ++ back).isEmpty = true := by simp [hback]
      rw [List.cons_append, resolveFrom, if_neg hstay, if_neg hparent, if_neg hlength, hnode]
      exact if_neg hmore
  | case9 trail piece rest hstay hparent hlength target hnode =>
      refine Or.inr ⟨by simp, .tooManyLinks, ?_⟩
      intro back _
      rw [List.cons_append, resolveFrom, if_neg hstay, if_neg hparent, if_neg hlength, hnode]
  | case10 trail piece rest hstay hparent hlength target hnode links ih =>
      have hstep (back : List FileName) : resolveFrom (links + 1) trail (piece :: back) =
          resolveFrom links (if target.isAbsolute then trail.root else trail)
            (target.pieces ++ back) := by
        rw [resolveFrom, if_neg hstay, if_neg hparent, if_neg hlength, hnode]
      simpa only [List.cons_append, hstep, List.append_assoc, dite_eq_ite] using ih

/-- A path that ends in a slash leads to a directory only if it does so without the slash, and
names behind either of the two lead on from there. -/
theorem exists_resolveFrom_append {pieces front : List FileName} {found : Trail}
    (hpieces : pieces = front ∨ pieces = front ++ [[]])
    (h : resolveFrom links trail pieces = .ok (.directory found)) :
    ∃ left, ∀ back, resolveFrom links trail (front ++ back) = resolveFrom left found back := by
  rcases resolveFrom_append links trail front with
    ⟨left, found', happend⟩ | ⟨hfront, cause, hbehind⟩
  · have hfound : found' = found := by
      rcases hpieces with rfl | rfl
      · have hend := happend []
        rw [List.append_nil, h, resolveFrom] at hend
        cases hend
        rfl
      · rw [happend, resolveFrom_stay (Or.inl rfl), resolveFrom] at h
        cases h
        rfl
    exact ⟨left, hfound ▸ happend⟩
  · rcases hpieces with rfl | rfl
    · exact absurd h (hfront found)
    · rw [hbehind _ (List.cons_ne_nil _ _)] at h
      cases h

/-- **The names of a file lead to it.** -/
theorem resolveFrom_file? (hproper : ∀ name ∈ names, name.IsProper)
    (hlength : ∀ name ∈ names, name.length ≤ maxNameLength)
    (h : trail.here.file? names = some content) :
    resolveFrom links trail names = .ok (.file content) := by
  induction names generalizing trail with
  | nil => cases h
  | cons name rest ih =>
      obtain ⟨hname, hrest⟩ := List.forall_mem_cons.1 hproper
      obtain ⟨hshort, hrestShort⟩ := List.forall_mem_cons.1 hlength
      rw [Directory.file?] at h
      cases hnode : trail.here.node? name with
      | none => simp [hnode] at h
      | some node =>
          rw [hnode] at h
          cases node with
          | link target => cases h
          | directory inner =>
              rw [resolveFrom_enter hname hshort hnode]
              exact ih hrest hrestShort h
          | file data =>
              by_cases hend : rest = []
              · subst hend
                cases h
                have hstays : ¬ (name = [] ∨ name = [Path.dot]) :=
                  not_or.2 ⟨hname.ne_nil, hname.ne_dots.1⟩
                rw [resolveFrom, if_neg hstays, if_neg hname.ne_dots.2,
                  if_neg (Nat.not_lt.2 hshort), hnode]
                rfl
              · simp [hend] at h

/-- The path of a file that names lead to from the directory at the end of another path. -/
theorem resolve_descend (hroot : system.resolve root = .ok (.directory trail))
    (hproper : ∀ name ∈ names, name.IsProper)
    (hlength : ∀ name ∈ names, name.length ≤ maxNameLength)
    (h : trail.here.file? names = some content)
    (hrefusal : refusal? (root.descend names) = none) :
    system.resolve (root.descend names) = .ok (.file content) := by
  cases hrootRefusal : refusal? root with
  | some cause => simp [resolve, hrootRefusal] at hroot
  | none =>
      have hbytes : root.bytes ≠ [] := by
        intro hempty
        simp [refusal?, hempty] at hrootRefusal
      obtain ⟨front, hfront, hpieces, habsolute⟩ :=
        root.pieces_descend hbytes (Directory.ne_nil_of_file? h)
          fun name hname => (hproper name hname).slash_not_mem
      simp only [resolve, hrootRefusal] at hroot
      obtain ⟨left, happend⟩ := exists_resolveFrom_append hfront hroot
      simp only [resolve, hrefusal, start, habsolute, hpieces]
      exact (happend names).trans (resolveFrom_file? hproper hlength h)

/-- A directory with a file in front is listed with the file in front. -/
theorem filesFrom_file_eq_ok {name : FileName} {others : Directory}
    (h : filesFrom root names (.file name content others) = .ok files) :
    ∃ more, filesFrom root names others = .ok more ∧
      files = ⟨names ++ [name], readAs (root.child name) content⟩ :: more := by
  rw [filesFrom] at h
  cases hmore : filesFrom root names others with
  | error refusal =>
      rw [hmore] at h
      cases h
  | ok more =>
      rw [hmore] at h
      cases h
      exact ⟨more, rfl, rfl⟩

/-- A directory with a directory in front is listed with the files of that one in front. -/
theorem filesFrom_subdirectory_eq_ok {name : FileName} {inner others : Directory}
    (h : filesFrom root names (.subdirectory name inner others) = .ok files) :
    ∃ inside more, filesFrom (root.child name) (names ++ [name]) inner = .ok inside ∧
      filesFrom root names others = .ok more ∧ files = inside ++ more := by
  simp only [filesFrom] at h
  cases hrefusal : refusal? (root.child name) with
  | some cause =>
      rw [hrefusal] at h
      cases h
  | none =>
      rw [hrefusal] at h
      cases hinside : filesFrom (root.child name) (names ++ [name]) inner with
      | error refusal =>
          rw [hinside] at h
          cases h
      | ok inside =>
          cases hmore : filesFrom root names others with
          | error refusal =>
              rw [hinside, hmore] at h
              cases h
          | ok more =>
              rw [hinside, hmore] at h
              cases h
              exact ⟨inside, more, rfl, rfl, rfl⟩

end FileSystem

namespace Directory

variable {directory : Directory}

/-- An entry does not hide what is behind the others. -/
theorem file?_cons_of_file? {others : Directory} {name : FileName}
    (node : Node) (hfresh : others.node? name = none) (h : others.file? names = some content) :
    (cons name node others).file? names = some content := by
  cases names with
  | nil => cases h
  | cons first rest =>
      have hname : name ≠ first := by
        rintro rfl
        rw [file?_of_node?_eq_none hfresh] at h
        cases h
      rw [file?_cons, if_neg hname, h]

/-- **What the walk finds** is in the tree, and is read by the path it is found under. -/
theorem exists_of_mem_filesFrom (root : Path) (h : directory.WellFormed)
    (hnames : ∀ name ∈ names, name.IsProper)
    (hfiles : FileSystem.filesFrom (root.descend names) names directory = .ok files)
    (hmem : file ∈ files) :
    ∃ below content, file.names = names ++ below ∧ (∀ name ∈ below, name.IsProper) ∧
      directory.file? below = some content ∧
      file.source = FileSystem.readAs (root.descend file.names) content := by
  induction directory generalizing names files with
  | empty =>
      cases hfiles
      cases hmem
  | file name content others ih =>
      obtain ⟨hname, hfresh, hothers⟩ := h
      obtain ⟨more, hmore, rfl⟩ := FileSystem.filesFrom_file_eq_ok hfiles
      rcases List.mem_cons.1 hmem with rfl | hmem
      · have hhere : (Directory.file name content others).file? [name] = some content := by
          rw [file?_file, if_pos rfl, if_pos rfl]
        rw [Path.descend_concat root hnames]
        exact ⟨[name], content, rfl, List.forall_mem_singleton.2 hname, hhere, rfl⟩
      · obtain ⟨below, found, hbelow, hproper, hfound, hsource⟩ := ih hothers hnames hmore hmem
        exact ⟨below, found, hbelow, hproper,
          file?_cons_of_file? (.file content) hfresh hfound, hsource⟩
  | link name target others ih =>
      obtain ⟨-, hfresh, hothers⟩ := h
      obtain ⟨below, found, hbelow, hproper, hfound, hsource⟩ := ih hothers hnames hfiles hmem
      exact ⟨below, found, hbelow, hproper, file?_cons_of_file? (.link target) hfresh hfound,
        hsource⟩
  | subdirectory name inner others ihInner ih =>
      obtain ⟨hname, hfresh, hinner, hothers⟩ := h
      have hnames' : ∀ other ∈ names ++ [name], other.IsProper :=
        List.forall_mem_append.2 ⟨hnames, List.forall_mem_singleton.2 hname⟩
      obtain ⟨inside, more, hinside, hmore, rfl⟩ := FileSystem.filesFrom_subdirectory_eq_ok hfiles
      rw [Path.descend_concat root hnames] at hinside
      rcases List.mem_append.1 hmem with hmem | hmem
      · obtain ⟨below, found, hbelow, hproper, hfound, hsource⟩ :=
          ihInner hinner hnames' hinside hmem
        have hhere : (subdirectory name inner others).file? (name :: below) = some found := by
          rw [file?_subdirectory, if_pos rfl, hfound]
        rw [List.append_assoc] at hbelow
        exact ⟨name :: below, found, hbelow, List.forall_mem_cons.2 ⟨hname, hproper⟩, hhere,
          hsource⟩
      · obtain ⟨below, found, hbelow, hproper, hfound, hsource⟩ := ih hothers hnames hmore hmem
        exact ⟨below, found, hbelow, hproper,
          file?_cons_of_file? (.directory inner) hfresh hfound, hsource⟩

end Directory

namespace FileSystem

/-- A file that a walk has found is seen again by its path, with the source that the walk has
read.  What the system refuses by its spelling was no source before. -/
theorem look_descend_of_mem
    (hroot : system.resolve root = .ok (.directory trail)) (h : trail.here.WellFormed)
    (hlook : system.look root = .ok (.directory (.ok files))) (hmem : file ∈ files)
    (hlength : ∀ name ∈ file.names, name.length ≤ maxNameLength) :
    system.look (root.descend file.names) = .ok (.file file.source) ∨
      ∃ cause, system.look (root.descend file.names) = .error cause ∧
        file.source = .error (.system cause) := by
  have hfiles : filesFrom root [] trail.here = .ok files := by
    simpa only [look, hroot, Except.ok.injEq, Target.directory.injEq] using hlook
  obtain ⟨below, content, hnames, hproper, hcontent, hsource⟩ :=
    Directory.exists_of_mem_filesFrom root h (List.forall_mem_nil _) hfiles hmem
  rw [List.nil_append] at hnames
  subst hnames
  cases hrefusal : refusal? (root.descend file.names) with
  | some cause =>
      refine Or.inr ⟨cause, ?_, ?_⟩
      · simp only [look, resolve, hrefusal]
      · simp only [hsource, readAs, hrefusal]
  | none =>
      refine Or.inl ?_
      have hresolve := resolve_descend hroot hproper hlength hcontent hrefusal
      simp only [look, hresolve, hsource, readAs, hrefusal]

/-- **What was found is read again.**  The path of a file that a walk has found names no
directory, and reading it comes out as it did on the walk. -/
theorem readSource_descend_of_mem (hroot : system.resolve root = .ok (.directory trail))
    (h : trail.here.WellFormed) (hlook : system.look root = .ok (.directory (.ok files)))
    (hmem : file ∈ files) (hlength : ∀ name ∈ file.names, name.length ≤ maxNameLength) :
    (∀ listing, system.look (root.descend file.names) ≠ .ok (.directory listing)) ∧
      system.look.readSource (root.descend file.names) =
        file.source.mapError (.ofReadError (root.descend file.names)) := by
  rw [FileView.readSource]
  rcases look_descend_of_mem hroot h hlook hmem hlength with hsame | ⟨cause, hrefused, hsource⟩
  · rw [hsame]
    exact ⟨by simp, rfl⟩
  · rw [hrefused, hsource]
    exact ⟨by simp, rfl⟩

end FileSystem
end SymbolAnnotations
