import Mathlib.Data.List.Find
import SymbolAnnotations.Proofs.GrammarCompleteness
import SymbolAnnotations.Proofs.PathNames

/-!
# What parsing computes, and which stores are parsed

The store of a source has, for each path, the last of the leaves that the grammar finds
there.  A leaf that the grammar yields consists of valid names, no more than may be
nested, and of a signature that its item could hold.  Conversely every such
leaf can be written, one block for each name but the last, and so a store is
the store of some source exactly if all its entries are of this kind.

* `Leaf.Fits` — what a leaf is like that is found behind some names;
* `Grammar.fits_of_items` — leaves of a derivation fit;
* `parse_computes_last_leaves` — parsing decides the grammar and computes its meaning;
* `Grammar.file_of_fits` — leaves that fit are derived from what `Leaf.source`
  writes for them;
* `exists_parse_eq_ok_iff_wellFormed` — the image of parsing.
-/

namespace SymbolAnnotations

open Source

/-- Text that a signature can have. -/
structure Grammar.IsSignature (text : List Char) : Prop where
  nonempty : text ≠ []
  trimmed : Trimmed text
  inside : ∀ rune ∈ text, rune ≠ Punctuation.newline.rune ∧ rune ≠ Punctuation.semicolon.rune
  begins : text.head? ≠ some Punctuation.openBrace.rune

/-- The leaf can be found behind so many names.  Nested signatures do not close
more braces than they open. -/
structure Leaf.Fits (outside : Nat) (leaf : Leaf) : Prop where
  names : ∀ name ∈ leaf.names, name.IsValid
  length_le : outside + leaf.names.length ≤ maxNesting + 1
  signature : Grammar.IsSignature leaf.signature.toList
  balanced : 2 ≤ outside + leaf.names.length → Grammar.Balanced leaf.signature.toList

/-- Every entry is that of a leaf: its path joins valid names with dots, which
it does in one way only (`Leaf.pathOf_injective`), and its signature fits behind
them. -/
def Store.WellFormed (store : Store) : Prop :=
  ∀ path signature, store.get? path = some signature →
    ∃ names, names ≠ [] ∧ path = ".".intercalate (names.map ItemName.spelling) ∧
      (Leaf.mk names signature).Fits 0

theorem Leaf.fits_under_iff {outside : Nat} {name : ItemName} {leaf : Leaf} :
    (leaf.under name).Fits outside ↔ name.IsValid ∧ leaf.Fits (outside + 1) := by
  have hlength : outside + (leaf.under name).names.length =
      outside + 1 + leaf.names.length := by
    rw [under, List.length_cons]
    omega
  constructor
  · intro h
    obtain ⟨hname, hnames⟩ := List.forall_mem_cons.1 h.names
    exact ⟨hname, hnames, hlength ▸ h.length_le, h.signature,
      fun htwo => h.balanced (hlength.symm ▸ htwo)⟩
  · intro hunder
    obtain ⟨hname, h⟩ := hunder
    exact ⟨List.forall_mem_cons.2 ⟨hname, h.names⟩, hlength.symm ▸ h.length_le, h.signature,
      fun htwo => h.balanced (hlength ▸ htwo)⟩

namespace Grammar

variable {depth : Nat} {input rest : List Char} {leaves : List Leaf}

theorem Name.isValid {name : ItemName} (h : Name input name rest) : name.IsValid := by
  cases h with
  | plain htext hnext =>
      rw [ItemName.IsValid, String.toList_ofList]
      exact htext
  | receiver hparen hstar htext htype =>
      rw [ItemName.IsValid, String.toList_ofList]
      exact htext

theorem Balanced.of_append {front back : List Char} (h : Balanced (front ++ back)) :
    Balanced front :=
  fun text htext => h text (htext.trans (List.prefix_append front back))

/-- The trimmed text of a signature. -/
theorem SignatureText.isSignature {text blank : List Char}
    (h : SignatureText depth (text ++ blank) rest) (htrimmed : Trimmed text)
    (hblank : ∀ rune ∈ blank, Rune.isWhiteSpace rune = true) : IsSignature text := by
  obtain ⟨first, more, happend, hspace, hopen⟩ := h.begins
  cases text with
  | nil =>
      exfalso
      rw [List.nil_append] at happend
      rw [hblank first (by simp [happend])] at hspace
      cases hspace
  | cons rune text =>
      obtain ⟨rfl, -⟩ := List.cons.inj happend
      refine ⟨List.cons_ne_nil _ _, htrimmed, ?_, by simpa using hopen⟩
      intro other hother
      have hinside := h.inside other (List.mem_append_left _ hother)
      simp only [Rune.isTerminator, Bool.or_eq_false_iff, beq_eq_false_iff_ne] at hinside
      exact ⟨hinside.2, hinside.1⟩

mutual

/-- The leaves of a list of items. -/
theorem fits_of_items {depth : Nat} {input rest : List Char} {leaves : List Leaf} :
    Items depth input leaves rest → depth ≤ maxNesting →
      ∀ leaf ∈ leaves, leaf.names ≠ [] ∧ leaf.Fits depth
  | .nil _, _ => by simp
  | .cons _ hitem hmore, hdepth => by
      intro leaf hleaf
      rcases List.mem_append.1 hleaf with hleaf | hleaf
      · exact fits_of_item hitem hdepth leaf hleaf
      · exact fits_of_items hmore hdepth leaf hleaf

/-- The leaves of an item. -/
theorem fits_of_item {depth : Nat} {input rest : List Char} {leaves : List Leaf} :
    Item depth input leaves rest → depth ≤ maxNesting →
      ∀ leaf ∈ leaves, leaf.names ≠ [] ∧ leaf.Fits depth
  | .mk hname _ hdefinition _ _, hdepth => by
      intro leaf hleaf
      obtain ⟨inner, hinner, rfl⟩ := List.mem_map.1 hleaf
      refine ⟨List.cons_ne_nil _ _, ?_⟩
      exact Leaf.fits_under_iff.2 ⟨hname.isValid,
        fits_of_definition hdefinition hdepth inner hinner⟩

/-- The leaves of a definition. -/
theorem fits_of_definition {depth : Nat} {input rest : List Char} {leaves : List Leaf} :
    Definition depth input leaves rest → depth ≤ maxNesting →
      ∀ leaf ∈ leaves, leaf.Fits (depth + 1)
  | .block hlevel hitems, _ => by
      intro leaf hleaf
      exact (fits_of_items hitems hlevel leaf hleaf).2
  | .signature htext htrimmed hblank, hdepth => by
      intro leaf hleaf
      rw [List.mem_singleton.1 hleaf]
      refine ⟨by simp, by simpa using hdepth, ?_, ?_⟩
      · rw [String.toList_ofList]
        exact htext.isSignature htrimmed hblank
      · intro htwo
        have hnested : 0 < depth := by
          rw [List.length_nil] at htwo
          omega
        rw [String.toList_ofList]
        exact (htext.balanced hnested).of_append

end

end Grammar

namespace Store

/-- A path has the signature of the last leaf that is written there. -/
theorem get?_ofLeaves_of_file {runes : List Char} {leaves : List Leaf}
    (h : Grammar.File runes leaves) (path : String) :
    (ofLeaves leaves).get? path =
      (leaves.reverse.find? (·.fullPath == path)).map (·.signature) := by
  have hpaths : ∀ leaf ∈ leaves, leaf.fullPath = leaf.path := by
    intro leaf hleaf
    obtain ⟨-, hfits⟩ := Grammar.fits_of_items h (Nat.zero_le _) leaf hleaf
    exact Leaf.fullPath_eq_path hfits.names
  rw [get?_ofLeaves]
  refine congrArg (Option.map Leaf.signature) (List.find?_congr ?_)
  intro leaf hleaf
  rw [hpaths leaf (List.mem_reverse.1 hleaf)]

/-- **Parsing decides the grammar and computes its meaning.**  A source is
parsed exactly if it is the encoding of runes that the grammar derives, and the
store has, for every full path, the signature of the last leaf with that path. -/
theorem parse_computes_last_leaves (source : ByteArray) (store : Store) :
    parse source = .ok store ↔
      ∃ text : String, source = text.toByteArray ∧
        ∃ leaves, Grammar.File text.toList leaves ∧
          ∀ path, store.get? path =
            (leaves.reverse.find? (·.fullPath == path)).map (·.signature) := by
  rw [parse_eq_ok_iff]
  constructor
  · intro hderived
    obtain ⟨text, hsource, leaves, hfile, rfl⟩ := hderived
    exact ⟨text, hsource, leaves, hfile, get?_ofLeaves_of_file hfile⟩
  · intro hderived
    obtain ⟨text, hsource, leaves, hfile, hget⟩ := hderived
    refine ⟨text, hsource, leaves, hfile, ext_get? ?_⟩
    intro path
    rw [hget, get?_ofLeaves_of_file hfile]

end Store

/-- An item with this definition, on a line of its own. -/
def ItemName.itemSource (name : ItemName) (definition : List Char) : List Char :=
  name.spelling.toList ++ ' ' :: (definition ++ [Punctuation.newline.rune])

/-- The definition that gives the text to these names, one block for each. -/
def ItemName.definitionSource (text : List Char) : List ItemName → List Char
  | [] => text
  | name :: inner =>
    Punctuation.openBrace.rune ::
      (name.itemSource (definitionSource text inner) ++ [Punctuation.closeBrace.rune])

/-- Runes from which the leaf is read. -/
def Leaf.source (leaf : Leaf) : List Char :=
  match leaf.names with
  | [] => []
  | name :: inner => name.itemSource (ItemName.definitionSource leaf.signature.toList inner)

namespace Grammar

variable {depth : Nat} {leaves : List Leaf}

/-- A valid name is written as it is spelled. -/
theorem name_of_isValid {name : ItemName} (h : name.IsValid) {next : Char}
    (hnext : Rune.continuesIdentifier next = false) (rest : List Char) :
    Name (name.spelling.toList ++ next :: rest) name (next :: rest) := by
  cases name with
  | plain identifier =>
      have hname : Name (identifier.toList ++ next :: rest)
          (.plain (String.ofList identifier.toList)) (next :: rest) := .plain h hnext
      rw [String.ofList_toList] at hname
      exact hname
  | receiver typeName =>
      have hname : Name
          (Punctuation.openParen.rune :: Punctuation.star.rune ::
            (typeName.toList ++ Punctuation.closeParen.rune :: next :: rest))
          (.receiver (String.ofList typeName.toList)) (next :: rest) :=
        .receiver (Gap.refl _ _) (Gap.refl _ _) h (Gap.refl _ _)
      rw [String.ofList_toList] at hname
      rw [ItemName.spelling, SymbolPath.toList_receiver]
      simpa using hname

/-- An item on a line of its own, with white space between the name and the
definition. -/
theorem item_of_gap {name : ItemName} {gap definition : List Char} (hname : name.IsValid)
    (hne : gap ≠ []) (hgap : ∀ rune ∈ gap, Rune.isInlineWhiteSpace rune = true)
    (hdefinition : ∀ rest, Definition depth (definition ++ Punctuation.newline.rune :: rest)
      leaves (Punctuation.newline.rune :: rest)) (rest : List Char) :
    Item depth (name.spelling.toList ++ gap ++ definition ++ Punctuation.newline.rune :: rest)
      (leaves.map (.under name)) rest := by
  cases gap with
  | nil => exact absurd rfl hne
  | cons blank more =>
      have hends : Rune.continuesIdentifier blank = false :=
        Rune.isWhiteSpace_continuesIdentifier
          (Rune.isWhiteSpace_of_isInlineWhiteSpace (hgap blank (List.mem_cons_self ..)))
      have hspelling := name_of_isValid hname hends
        (more ++ (definition ++ Punctuation.newline.rune :: rest))
      have hitem : Item depth _ (leaves.map (.under name)) rest :=
        .mk hspelling ⟨blank :: more, rfl, hgap⟩ (hdefinition rest) (Gap.refl _ _)
          (.terminator (by decide))
      simpa using hitem

/-- An item is written around its definition. -/
theorem item_of_definition {name : ItemName} {definition : List Char} (hname : name.IsValid)
    (hdefinition : ∀ rest, Definition depth (definition ++ Punctuation.newline.rune :: rest)
      leaves (Punctuation.newline.rune :: rest)) (rest : List Char) :
    Item depth (name.itemSource definition ++ rest) (leaves.map (.under name)) rest := by
  have hblank : Rune.isInlineWhiteSpace ' ' = true := by decide +kernel
  have hitem := item_of_gap hname (List.cons_ne_nil ' ' []) (by simpa using hblank)
    hdefinition rest
  rw [ItemName.itemSource]
  simpa using hitem

/-- A signature ends in front of a newline. -/
theorem signatureText_of_isSignature {text : List Char} (h : IsSignature text)
    (hbalanced : 0 < depth → Balanced text) (rest : List Char) :
    SignatureText depth text (Punctuation.newline.rune :: rest) := by
  refine ⟨?_, ?_, hbalanced, .terminator (by decide)⟩
  · have hbegins := h.begins
    have hfirst := h.trimmed.1
    cases text with
    | nil => exact absurd rfl h.nonempty
    | cons first more =>
        exact ⟨first, more, rfl, hfirst first rfl, by simpa using hbegins⟩
  · intro rune hrune
    obtain ⟨hnewline, hsemicolon⟩ := h.inside rune hrune
    simp [Rune.isTerminator, hnewline, hsemicolon]

/-- A definition that fits is derived as it is written. -/
theorem definition_of_fits {names : List ItemName} {signature : String}
    (h : (Leaf.mk names signature).Fits (depth + 1)) (rest : List Char) :
    Definition depth
      (ItemName.definitionSource signature.toList names ++ Punctuation.newline.rune :: rest)
      [⟨names, signature⟩] (Punctuation.newline.rune :: rest) := by
  induction names generalizing depth rest with
  | nil =>
      have htext : SignatureText depth (signature.toList ++ [])
          (Punctuation.newline.rune :: rest) := by
        rw [List.append_nil]
        exact signatureText_of_isSignature h.signature (fun hdepth => h.balanced (by omega)) rest
      have hdefinition := Definition.signature htext h.signature.trimmed (by simp)
      rw [String.ofList_toList, List.append_nil] at hdefinition
      exact hdefinition
  | cons name inner ih =>
      have hunder : ((Leaf.mk inner signature).under name).Fits (depth + 1) := h
      obtain ⟨hname, hinner⟩ := Leaf.fits_under_iff.1 hunder
      -- Each name takes a level of nesting, and the bound on their number pays for it.
      have hlevel : depth < maxNesting := by
        have hlength := hinner.length_le
        omega
      have hitem := item_of_definition hname (ih hinner)
        (Punctuation.closeBrace.rune :: Punctuation.newline.rune :: rest)
      have hitems := Items.cons (Gap.refl _ _) hitem (.nil (Gap.refl _ _))
      have hblock := Definition.block hlevel hitems
      rw [ItemName.definitionSource]
      simpa [Leaf.under] using hblock

end Grammar

namespace Store

/-- A store is that of its entries. -/
theorem ofList_toList (store : Store) : ofList store.toList = store := by
  apply ext_get?
  intro path
  have hmerge := get?_merge empty store path
  rw [get?_empty, Option.or_none] at hmerge
  exact hmerge

/-- What is parsed has entries of leaves only. -/
theorem wellFormed_of_parse_eq_ok {source : ByteArray} {store : Store}
    (h : parse source = .ok store) : store.WellFormed := by
  obtain ⟨_, -, leaves, hfile, rfl⟩ := parse_eq_ok_iff.1 h
  intro path signature hget
  rw [get?_ofLeaves, Option.map_eq_some_iff] at hget
  obtain ⟨leaf, hfind, rfl⟩ := hget
  have hpath : leaf.path = path := by simpa using List.find?_some hfind
  obtain ⟨hnames, hfits⟩ := Grammar.fits_of_items hfile (Nat.zero_le _) leaf
    (List.mem_reverse.1 (List.mem_of_find?_eq_some hfind))
  rw [← hpath, Leaf.path, Leaf.pathOf_eq_intercalate hfits.names]
  exact ⟨leaf.names, hnames, rfl, hfits⟩

/-- The names that an entry of a well-formed store is under. -/
theorem WellFormed.exists_names {store : Store} (h : store.WellFormed)
    {path signature : String} (hget : store.get? path = some signature) :
    ∃ names, names ≠ [] ∧ path = Leaf.pathOf names ∧ (Leaf.mk names signature).Fits 0 := by
  obtain ⟨names, hne, hpath, hfits⟩ := h path signature hget
  rw [← Leaf.pathOf_eq_intercalate hfits.names] at hpath
  exact ⟨names, hne, hpath, hfits⟩

end Store
end SymbolAnnotations
