import SymbolAnnotations.Output
import SymbolAnnotations.Proofs.StoreImage

/-!
# Flat stores as sources

A store whose paths are single names is printed as a list of items: a name,
white space, and a signature that is all the text up to the end of the line.  So
its text is a source again, namely of the same store.

* `exists_name_of_flat` — a path without a dot is a single name;
* `exists_file_of_lines` — printed entries are derived as items;
* `flat_dump_is_source` — what is printed is parsed to what was printed.
-/

namespace SymbolAnnotations

namespace Grammar

/-- Entries under single names are derived from their lines. -/
theorem exists_file_of_lines {separator : String} (hne : separator ≠ "")
    (hspace : ∀ rune ∈ separator.toList, Rune.isInlineWhiteSpace rune = true)
    {entries : List (String × String)}
    (h : ∀ entry ∈ entries, ∃ name : ItemName,
      entry.1 = name.spelling ∧ (Leaf.mk [name] entry.2).Fits 0) :
    ∃ leaves : List Leaf,
      File (String.join (entries.map (Store.textLine "" separator))).toList leaves ∧
      leaves.map (fun leaf => (leaf.path, leaf.signature)) = entries := by
  induction entries with
  | nil => exact ⟨[], .nil (Gap.refl _ _), rfl⟩
  | cons entry more ih =>
      obtain ⟨⟨name, hpath, hfits⟩, hmore⟩ := List.forall_mem_cons.1 h
      obtain ⟨leaves, hfile, hentries⟩ := ih hmore
      obtain ⟨path, signature⟩ := entry
      have hunder : ((Leaf.mk [] signature).under name).Fits 0 := hfits
      obtain ⟨hname, hinner⟩ := Leaf.fits_under_iff.1 hunder
      have hitem := item_of_gap hname (by simpa using hne) hspace (definition_of_fits hinner)
        (String.join (more.map (Store.textLine "" separator))).toList
      have hline : name.spelling.toList ++ separator.toList ++
          ItemName.definitionSource signature.toList [] ++ Punctuation.newline.rune ::
            (String.join (more.map (Store.textLine "" separator))).toList =
          (String.join (((path, signature) :: more).map (Store.textLine "" separator))).toList := by
        simp [Store.textLine, ← hpath, ItemName.definitionSource, Punctuation.rune]
      rw [hline] at hitem
      refine ⟨_, .cons (Gap.refl _ _) hitem hfile, ?_⟩
      rw [List.map_append, hentries]
      simp [← hpath, Leaf.path, Leaf.under, Leaf.pathOf, SymbolPath.qualify]

end Grammar

namespace Store

/-- A path without a dot is a single name. -/
theorem WellFormed.exists_name_of_flat {store : Store} (h : store.WellFormed)
    {path signature : String} (hget : store.get? path = some signature)
    (hflat : '.' ∉ path.toList) :
    ∃ name : ItemName, path = name.spelling ∧ (Leaf.mk [name] signature).Fits 0 := by
  obtain ⟨names, hne, rfl, hfits⟩ := h.exists_names hget
  cases names with
  | nil => exact absurd rfl hne
  | cons name inner =>
      cases inner with
      | nil => exact ⟨name, by simp [Leaf.pathOf, SymbolPath.qualify], hfits⟩
      | cons next more =>
          have hnext : next.IsValid := hfits.names next (by simp)
          rw [Leaf.pathOf_cons_cons name hnext] at hflat
          simp at hflat

/-- **A flat dump is a source again.**  If no path of a parsed store has a dot,
and the separator is white space without a newline, then what is printed of the
store is parsed to that store, and printed again it is the same text. -/
theorem flat_dump_is_source {source : ByteArray} {store : Store} (h : parse source = .ok store)
    (hflat : ∀ path ∈ store.paths, '.' ∉ path.toList) {separator : String}
    (hne : separator ≠ "")
    (hspace : ∀ rune ∈ separator.toList, rune ≠ '\n' ∧ Rune.isWhiteSpace rune = true)
    (pretty : Bool) :
    ∃ again, parse (store.render { pretty, separator }).toByteArray = .ok again ∧
      again = store ∧ again.render { pretty, separator } = store.render { pretty, separator } := by
  have hformed := wellFormed_of_parse_eq_ok h
  have hinline : ∀ rune ∈ separator.toList, Rune.isInlineWhiteSpace rune = true := by
    intro rune hrune
    obtain ⟨hnewline, hblank⟩ := hspace rune hrune
    simp [Rune.isInlineWhiteSpace, Punctuation.rune, hnewline, hblank]
  have hentries : ∀ entry ∈ store.toList, ∃ name : ItemName,
      entry.1 = name.spelling ∧ (Leaf.mk [name] entry.2).Fits 0 := by
    rintro ⟨path, signature⟩ hentry
    have hget := mem_toList_iff.1 hentry
    have hpath : path ∈ store.paths := mem_paths_iff.2 (Option.isSome_of_eq_some hget)
    exact hformed.exists_name_of_flat hget (hflat path hpath)
  obtain ⟨leaves, hfile, hleaves⟩ := Grammar.exists_file_of_lines hne hinline hentries
  refine ⟨store, ?_, rfl, rfl⟩
  refine parse_eq_ok_iff.2 ⟨_, rfl, leaves, hfile, ?_⟩
  rw [ofLeaves_eq_ofList, hleaves, ofList_toList]

/-- Signatures with unbalanced braces and with a tab. -/
theorem flat_dump_of_braces :
    ∃ store, parse "A \x7dx\x7b ;( * T)  a\tb".toByteArray = .ok store ∧
      store.render {} = "(*T)\ta\tb\nA\t\x7dx\x7b\n" ∧
      parse "(*T)\ta\tb\nA\t\x7dx\x7b\n".toByteArray = .ok store := by
  let text := "A \x7dx\x7b ;( * T)  a\tb"
  let found : List Leaf := [⟨[.plain "A"], "\x7dx\x7b"⟩, ⟨[.receiver "T"], "a\tb"⟩]
  have hrun : ({} : Source.Reading).run {} text.toList =
      .ok ⟨.signature (.receiver "T") ['a', '\t', 'b'] 0, [], [⟨[.plain "A"], "\x7dx\x7b"⟩]⟩ := by
    decide +kernel
  have hleaves : Source.leaves text.toByteArray = .ok found :=
    Source.leaves_toByteArray_of_run hrun (by decide +kernel)
  have hparse : parse text.toByteArray = .ok (ofLeaves found) :=
    congrArg (Except.map ofLeaves) hleaves
  have hflat : ∀ path ∈ (ofLeaves found).paths, '.' ∉ path.toList := by decide +kernel
  have hblank : Rune.isWhiteSpace '\t' = true := by decide +kernel
  have htab : ∀ rune ∈ "\t".toList, rune ≠ '\n' ∧ Rune.isWhiteSpace rune = true := by
    simp [hblank]
  have hrender : (ofLeaves found).render {} = "(*T)\ta\tb\nA\t\x7dx\x7b\n" := by decide +kernel
  obtain ⟨again, hagain, rfl, -⟩ :=
    flat_dump_is_source hparse hflat (by decide) htab true
  exact ⟨ofLeaves found, hparse, hrender, hrender ▸ hagain⟩

end Store
end SymbolAnnotations
