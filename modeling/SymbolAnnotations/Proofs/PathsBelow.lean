import Mathlib.Data.List.Basic
import SymbolAnnotations.File.Path

/-!
# Paths below a directory

A directory is entered by putting a slash and a name behind its path.  However the path
of the directory is spelled, with or without a slash at its end, with dots or empty
pieces in it or with nothing at all, this adds just the name to its components, if it is
a name that a directory can list.

* `piecesOf_intercalate` — names without slashes are found between the slashes that join
  them;
* `descend_concat` — one name after the other is as good as all at once;
* `components_descend` — what names add to a path;
* `below?_descend` — the path of the directory can be taken off again.
-/

namespace SymbolAnnotations

/-- A name that a directory can list. -/
structure FileName.IsProper (name : FileName) : Prop where
  ne_nil : name ≠ []
  slash_not_mem : Path.slash ∉ name
  /-- The directory itself and the one above it are no entries. -/
  ne_dots : name ≠ [Path.dot] ∧ name ≠ [Path.dot, Path.dot]

instance (name : FileName) : Decidable name.IsProper :=
  decidable_of_iff
    (name ≠ [] ∧ Path.slash ∉ name ∧ name ≠ [Path.dot] ∧ name ≠ [Path.dot, Path.dot])
    ⟨fun h => ⟨h.1, h.2.1, h.2.2⟩, fun h => ⟨h.ne_nil, h.slash_not_mem, h.ne_dots⟩⟩

namespace Path

/-- Pieces in front of a slash and behind it. -/
theorem piecesOf_append_slash (front back : List UInt8) :
    piecesOf (front ++ slash :: back) = piecesOf front ++ piecesOf back := by
  induction front with
  | nil => simp [piecesOf]
  | cons byte more ih =>
      obtain ⟨piece, others, hmore⟩ := List.exists_cons_of_ne_nil (piecesOf_ne_nil more)
      rw [hmore, List.cons_append] at ih
      simp only [List.cons_append, piecesOf, hmore, ih]
      split <;> rfl

/-- Without slashes there is one piece. -/
theorem piecesOf_of_slash_not_mem {name : FileName} (h : slash ∉ name) :
    piecesOf name = [name] := by
  induction name with
  | nil => rfl
  | cons byte more ih =>
      obtain ⟨hbyte, hmore⟩ := not_or.1 (mt List.mem_cons.2 h)
      rw [piecesOf, if_neg (Ne.symm hbyte), ih hmore]

/-- **The names are found again** between the slashes that join them. -/
theorem piecesOf_intercalate {names : List FileName} (hne : names ≠ [])
    (h : ∀ name ∈ names, slash ∉ name) :
    piecesOf (List.intercalate [slash] names) = names := by
  induction names with
  | nil => exact absurd rfl hne
  | cons name more ih =>
      obtain ⟨hname, hmore⟩ := List.forall_mem_cons.1 h
      cases more with
      | nil => rw [List.intercalate_singleton, piecesOf_of_slash_not_mem hname]
      | cons next rest =>
          rw [List.intercalate_cons_cons, List.append_assoc, List.singleton_append,
            piecesOf_append_slash, piecesOf_of_slash_not_mem hname,
            ih (List.cons_ne_nil _ _) hmore]
          rfl

/-- A path begins with the pieces of its beginning. -/
theorem head?_pieces_append_slash (front back : List UInt8) :
    (Path.mk (front ++ slash :: back)).pieces.head? = (Path.mk front).pieces.head? := by
  obtain ⟨piece, others, hfront⟩ := List.exists_cons_of_ne_nil (piecesOf_ne_nil front)
  simp only [pieces, piecesOf_append_slash, hfront, List.cons_append, List.head?_cons]

theorem isAbsolute_append_slash (front back : List UInt8) :
    (Path.mk (front ++ slash :: back)).isAbsolute = (Path.mk (front ++ [slash])).isAbsolute := by
  cases front <;> rfl

/-- What stands behind a slash adds its pieces. -/
theorem components_append_slash (front back : List UInt8) :
    (Path.mk (front ++ slash :: back)).components =
      (Path.mk (front ++ [slash])).components ++ (piecesOf back).filterMap component? := by
  simp only [components, isAbsolute_append_slash front back, head?_pieces_append_slash]
  simp only [pieces, piecesOf_append_slash, List.filterMap_append]
  split
  · simp [piecesOf, component?]
  · split <;> simp [piecesOf, component?]

/-- A slash at the end does not count. -/
theorem components_concat_slash {front : List UInt8} (hne : front ≠ []) :
    (Path.mk (front ++ [slash])).components = (Path.mk front).components := by
  have habsolute : (Path.mk (front ++ [slash])).isAbsolute = (Path.mk front).isAbsolute := by
    cases front with
    | nil => exact absurd rfl hne
    | cons byte more => rfl
  have hinner : (Path.mk (front ++ [slash])).pieces.filterMap component? =
      (Path.mk front).pieces.filterMap component? := by
    simp [pieces, piecesOf_append_slash, piecesOf, component?]
  simp only [components, habsolute, head?_pieces_append_slash, hinner]

/-- A name that can be listed is a component wherever it stands. -/
theorem filterMap_component? {names : List FileName} (h : ∀ name ∈ names, name.IsProper) :
    names.filterMap component? = names.map .name := by
  induction names with
  | nil => rfl
  | cons name more ih =>
      obtain ⟨hname, hmore⟩ := List.forall_mem_cons.1 h
      have hcomponent : component? name = some (.name name) := by
        simp [component?, hname.ne_nil, hname.ne_dots]
      rw [List.filterMap_cons_some hcomponent, ih hmore, List.map_cons]

/-- What is put behind the path of a directory to get at its entries. -/
theorem child_eq (directory : Path) :
    ∃ front, (∀ name, directory.child name = ⟨front ++ name⟩) ∧
      (front = [] ∧ directory.bytes = [] ∨
        ∃ outer, front = outer ++ [slash] ∧
          (Path.mk front).components = directory.components) := by
  obtain ⟨bytes⟩ := directory
  rcases List.eq_nil_or_concat' bytes with rfl | ⟨outer, last, rfl⟩
  · exact ⟨[], fun _ => rfl, Or.inl ⟨rfl, rfl⟩⟩
  · by_cases hlast : last = slash
    · subst hlast
      refine ⟨outer ++ [slash], ?_, Or.inr ⟨outer, rfl, rfl⟩⟩
      intro name
      simp [child]
    · refine ⟨outer ++ [last] ++ [slash], ?_, Or.inr ⟨_, rfl, components_concat_slash (by simp)⟩⟩
      intro name
      simp [child, hlast]

/-- An absolute path begins with an empty piece. -/
theorem head?_pieces_of_isAbsolute {path : Path} (h : path.isAbsolute = true) :
    path.pieces.head? = some [] := by
  obtain ⟨bytes⟩ := path
  cases bytes with
  | nil => cases h
  | cons byte more =>
      have hbyte : byte = slash := by simpa [isAbsolute] using h
      simp [pieces, piecesOf, hbyte]

theorem descend_of_ne_nil (root : Path) {names : List FileName} (hne : names ≠ []) :
    root.descend names = root.child (List.intercalate [slash] names) := by
  cases names with
  | nil => exact absurd rfl hne
  | cons name more => rfl

/-- Names on their own are no absolute path, and do not begin with a dot that counts. -/
theorem components_intercalate {names : List FileName} (hne : names ≠ [])
    (h : ∀ name ∈ names, name.IsProper) :
    (Path.mk (List.intercalate [slash] names)).components = names.map .name := by
  have hpieces : (Path.mk (List.intercalate [slash] names)).pieces = names :=
    piecesOf_intercalate hne (fun name hname => (h name hname).slash_not_mem)
  have hhead : ∀ name, names.head? = some name → name.IsProper :=
    fun name hname => h name (List.mem_of_head? hname)
  have habsolute : (Path.mk (List.intercalate [slash] names)).isAbsolute ≠ true := by
    intro hslash
    have hfirst := head?_pieces_of_isAbsolute hslash
    rw [hpieces] at hfirst
    exact (hhead [] hfirst).ne_nil rfl
  have hdot : names.head? ≠ some [dot] := fun hfirst => (hhead [dot] hfirst).ne_dots.1 rfl
  rw [components, if_neg habsolute, hpieces, if_neg hdot, filterMap_component? h]

/-- **What names add to a path.** -/
theorem components_descend (root : Path) {names : List FileName}
    (h : ∀ name ∈ names, name.IsProper) :
    (root.descend names).components = root.components ++ names.map .name := by
  by_cases hne : names = []
  · subst hne
    simp [descend]
  · obtain ⟨front, hchild, hfront⟩ := root.child_eq
    rw [descend_of_ne_nil root hne, hchild]
    rcases hfront with ⟨rfl, hempty⟩ | ⟨outer, rfl, hroot⟩
    · obtain ⟨bytes⟩ := root
      cases hempty
      exact components_intercalate hne h
    · have hpieces := piecesOf_intercalate hne (fun name hname => (h name hname).slash_not_mem)
      rw [List.append_assoc, List.singleton_append, components_append_slash, hroot, hpieces,
        filterMap_component? h]

theorem intercalate_concat {names : List FileName} (hne : names ≠ []) (name : FileName) :
    List.intercalate [slash] (names ++ [name]) =
      List.intercalate [slash] names ++ slash :: name := by
  induction names with
  | nil => exact absurd rfl hne
  | cons first more ih =>
      cases more with
      | nil => simp
      | cons next rest =>
          have hrest := ih (List.cons_ne_nil _ _)
          rw [List.cons_append] at hrest ⊢
          rw [List.cons_append, List.intercalate_cons_cons, List.intercalate_cons_cons, hrest]
          simp

/-- The last byte of the joined names belongs to a name. -/
theorem exists_last_intercalate {names : List FileName} (hne : names ≠ [])
    (h : ∀ name ∈ names, name.IsProper) :
    ∃ outer last, List.intercalate [slash] names = outer ++ [last] ∧ last ≠ slash := by
  have hpieces := piecesOf_intercalate hne (fun name hname => (h name hname).slash_not_mem)
  have hnil : [] ∉ names := fun hmem => (h [] hmem).ne_nil rfl
  rcases List.eq_nil_or_concat' (List.intercalate [slash] names) with hempty | ⟨outer, last, hjoin⟩
  · rw [hempty] at hpieces
    rw [← hpieces] at hnil
    exact absurd (List.mem_singleton.2 rfl) hnil
  · refine ⟨outer, last, hjoin, ?_⟩
    rintro rfl
    rw [hjoin, piecesOf_append_slash] at hpieces
    rw [← hpieces] at hnil
    exact absurd (List.mem_append_right _ (List.mem_singleton.2 rfl)) hnil

/-- **One name after the other** leads where all of them lead at once. -/
theorem descend_concat (root : Path) {names : List FileName}
    (h : ∀ name ∈ names, name.IsProper) (name : FileName) :
    (root.descend names).child name = root.descend (names ++ [name]) := by
  by_cases hne : names = []
  · subst hne
    simp [descend]
  · obtain ⟨front, hchild, -⟩ := root.child_eq
    obtain ⟨outer, last, hjoin, hlast⟩ := exists_last_intercalate hne h
    rw [descend_of_ne_nil root hne, descend_of_ne_nil root (by simp), intercalate_concat hne,
      hchild, hchild, hjoin]
    simp [child, hlast]

/-- **The root can be taken off again,** whatever its spelling. -/
theorem below?_descend (root : Path) {names : List FileName}
    (h : ∀ name ∈ names, name.IsProper) :
    root.below? (root.descend names) = some (names.map .name) := by
  have hprefix : root.components <+: root.components ++ names.map PathComponent.name :=
    List.prefix_append _ _
  rw [below?, components_descend root h, if_pos (List.isPrefixOf_iff_prefix.2 hprefix),
    List.drop_left]

end Path
end SymbolAnnotations
