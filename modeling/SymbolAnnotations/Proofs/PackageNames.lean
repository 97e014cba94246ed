import Mathlib.Data.List.TakeWhile
import SymbolAnnotations.Proofs.PathsBelow
import SymbolAnnotations.Registry.Load
import SymbolAnnotations.Text.Utf8.Lemmas

/-!
# Packages of files

The package of an annotation file is named by the path of the file below the root, without
the extension.  The names on the way are kept as they are, so that the file can be told
from its package, with one exception: without their extensions, the files `..sgoann` and
`...sgoann` of a directory both leave `..`.

* `text?_append_toByteArray` — text behind other bytes does not make them a text;
* `stemAndExtension?_eq_some_iff`, `isSource_iff` — the names of annotation files;
* `packagePath?_descend`, `isSome_packagePath?_iff` — the package of a file below a root,
  and which files have one;
* `packagePath_determines_file` — what a package says about its file.
-/

namespace SymbolAnnotations

/-- The bytes of a byte array, one after the other. -/
theorem toList_eq_toList_data (bytes : ByteArray) : bytes.toList = bytes.data.toList := by
  have hloop : ∀ i read, ByteArray.toList.loop bytes i read =
      read.reverse ++ bytes.data.toList.drop i := by
    intro i read
    fun_induction ByteArray.toList.loop bytes i read with
    | case1 i read h ih =>
        have hbyte : bytes.get! i = bytes.data.toList[i] := by
          simp [ByteArray.get!, getElem!_pos bytes.data i h]
        rw [ih, hbyte, List.reverse_cons, List.append_assoc, List.singleton_append,
          ← List.drop_eq_getElem_cons]
    | case2 i read h =>
        have hlength : bytes.data.toList.length ≤ i := Nat.le_of_not_lt h
        rw [List.drop_eq_nil_of_le hlength, List.append_nil]
  rw [ByteArray.toList, hloop 0 [], List.reverse_nil, List.nil_append, List.drop_zero]

namespace Utf8

/-- **Text behind other bytes** belongs to a text exactly if these do. -/
theorem text?_append_toByteArray (front : ByteArray) {text : String} (hne : text ≠ "") :
    text? (front ++ text.toByteArray) = (text? front).map (· ++ text) := by
  cases hfront : (decode front).complete with
  | true =>
      have htext : text? front = some (String.ofList (decode front).runes) := by
        simp [text?, hfront]
      have hwhole := text?_eq_some_iff.1 htext
      rw [htext, Option.map_some, text?_eq_some_iff, String.toByteArray_append, ← hwhole]
  | false =>
      have hrunes : text.toList ≠ [] := by simpa using hne
      have hwhole := decode_append_of_incomplete hfront hrunes ByteArray.empty
      rw [ByteArray.append_empty, String.utf8Encode_toList] at hwhole
      simp [text?, hwhole, hfront]

theorem isSome_text?_iff {bytes : ByteArray} :
    (text? bytes).isSome = true ↔ bytes.IsValidUTF8 := by
  rw [← complete_decode_iff, text?]
  split <;> simp_all

/-- Texts can be had of names if they are all UTF-8. -/
theorem isSome_mapM_text?_iff {names : List FileName} :
    (names.mapM fun name => text? name.toByteArray).isSome = true ↔
      ∀ name ∈ names, name.toByteArray.IsValidUTF8 := by
  induction names with
  | nil => simp
  | cons name more ih =>
      rw [List.forall_mem_cons, ← ih, ← isSome_text?_iff, List.mapM_cons]
      cases text? name.toByteArray with
      | none => simp
      | some text => cases more.mapM fun name => text? name.toByteArray <;> simp

end Utf8

namespace FileName

/-- The name that a text spells. -/
def ofString (text : String) : FileName :=
  text.toUTF8.toList

theorem toByteArray_ofString (text : String) : (ofString text).toByteArray = text.toByteArray := by
  rw [ofString, toList_eq_toList_data, String.toUTF8_eq_toByteArray]
  apply ByteArray.ext
  rw [List.data_toByteArray, Array.toArray_toList]

theorem ofString_injective : Function.Injective ofString := by
  intro text other h
  have hbytes := congrArg List.toByteArray h
  rw [toByteArray_ofString, toByteArray_ofString] at hbytes
  exact String.toByteArray_inj.1 hbytes

theorem ofString_append (front back : String) :
    ofString (front ++ back) = ofString front ++ ofString back := by
  simp only [ofString, toList_eq_toList_data, String.toUTF8_eq_toByteArray,
    String.toByteArray_append, ByteArray.toList_data_append]

theorem ofString_intercalate (texts : List String) :
    ofString ("/".intercalate texts) = List.intercalate [Path.slash] (texts.map ofString) := by
  have hslash : ofString "/" = [Path.slash] := by decide +kernel
  have hempty : ofString "" = [] := by decide +kernel
  induction texts with
  | nil => exact hempty
  | cons text more ih =>
      cases more with
      | nil => simp
      | cons next rest =>
          rw [String.intercalate_cons_cons, ofString_append, ofString_append, ih, hslash]
          simp

/-- A stem that is not empty, and an extension without a dot. -/
theorem stemAndExtension?_eq_some_iff {name stem extension : FileName} :
    Path.stemAndExtension? name = some (stem, extension) ↔
      name = stem ++ Path.dot :: extension ∧ stem ≠ [] ∧ Path.dot ∉ extension := by
  constructor
  · intro h
    have hname : name.reverse.takeWhile (· != Path.dot) ++ name.reverse.dropWhile (· != Path.dot) =
        name.reverse := List.takeWhile_append_dropWhile
    have hextension : Path.dot ∉ name.reverse.takeWhile (· != Path.dot) := by
      intro hmem
      have htest := List.mem_takeWhile_imp hmem
      simp at htest
    rw [Path.stemAndExtension?] at h
    cases hdrop : name.reverse.dropWhile (· != Path.dot) with
    | nil =>
        rw [hdrop] at h
        cases h
    | cons byte before =>
        have hdot : byte = Path.dot := by
          have hhead := List.head?_dropWhile_not (· != Path.dot) name.reverse
          rw [hdrop] at hhead
          simpa using hhead
        cases before with
        | nil =>
            rw [hdrop] at h
            cases h
        | cons next more =>
            rw [hdrop] at h
            cases h
            rw [hdrop, hdot] at hname
            have hsplit := congrArg List.reverse hname
            rw [List.reverse_reverse] at hsplit
            exact ⟨hsplit.symm.trans (by simp), by simp, by simpa using hextension⟩
  · rintro ⟨rfl, hne, hdot⟩
    have hall : ∀ byte ∈ extension.reverse, (byte != Path.dot) = true := by
      intro byte hmem
      rw [bne_iff_ne]
      rintro rfl
      exact hdot (List.mem_reverse.1 hmem)
    have hreverse : (stem ++ Path.dot :: extension).reverse =
        extension.reverse ++ Path.dot :: stem.reverse := by simp
    obtain ⟨next, more, hstem⟩ := List.exists_cons_of_ne_nil (List.reverse_ne_nil_iff.2 hne)
    rw [Path.stemAndExtension?, hreverse, List.takeWhile_append_of_pos hall,
      List.dropWhile_append_of_pos hall, List.takeWhile_cons_of_neg (by simp),
      List.dropWhile_cons_of_neg (by simp), hstem]
    have hback := congrArg List.reverse hstem
    rw [List.reverse_reverse] at hback
    simp [hback]

theorem ofString_sgoann : ofString ".sgoann" = Path.dot :: ofString "sgoann" := by
  decide +kernel

/-- An annotation file is named by a stem and the extension. -/
theorem isSource_iff {name : FileName} :
    name.isSource = true ↔ ∃ stem, stem ≠ [] ∧ name = stem ++ ofString ".sgoann" := by
  have hdot : Path.dot ∉ ofString "sgoann" := by decide +kernel
  rw [isSource, beq_iff_eq, Path.extension?, Option.map_eq_some_iff, ofString_sgoann]
  constructor
  · rintro ⟨⟨stem, extension⟩, hparts, hextension⟩
    obtain ⟨hname, hne, -⟩ := stemAndExtension?_eq_some_iff.1 hparts
    cases hextension
    exact ⟨stem, hne, hname⟩
  · rintro ⟨stem, hne, hname⟩
    exact ⟨(stem, ofString "sgoann"), stemAndExtension?_eq_some_iff.2 ⟨hname, hne, hdot⟩, rfl⟩

/-- What stays of the name of an annotation file without its extension. -/
theorem withoutExtension_append {stem : FileName} (hne : stem ≠ []) :
    Path.withoutExtension (stem ++ ofString ".sgoann") =
      if stem = [Path.dot] then [Path.dot, Path.dot] else stem := by
  have hdot : Path.dot ∉ ofString "sgoann" := by decide +kernel
  have hparts : Path.stemAndExtension? (stem ++ ofString ".sgoann") =
      some (stem, ofString "sgoann") := by
    rw [ofString_sgoann]
    exact stemAndExtension?_eq_some_iff.2 ⟨rfl, hne, hdot⟩
  rw [Path.withoutExtension, hparts]

theorem text?_ofString (text : String) : Utf8.text? (ofString text).toByteArray = some text :=
  Utf8.text?_eq_some_iff.2 (toByteArray_ofString text)

/-- The name of an annotation file is a text exactly if its stem is one. -/
theorem text?_append_sgoann (stem : FileName) :
    Utf8.text? (stem ++ ofString ".sgoann").toByteArray =
      (Utf8.text? stem.toByteArray).map (· ++ ".sgoann") := by
  rw [List.toByteArray_append, toByteArray_ofString]
  exact Utf8.text?_append_toByteArray _ (by decide)

/-- The extension is no matter of whether a name is a text. -/
theorem isSome_text?_withoutExtension {file : FileName} (h : file.isSource = true) :
    (Utf8.text? (Path.withoutExtension file).toByteArray).isSome =
      (Utf8.text? file.toByteArray).isSome := by
  obtain ⟨stem, hne, rfl⟩ := isSource_iff.1 h
  rw [withoutExtension_append hne, text?_append_sgoann, Option.isSome_map]
  split
  · rename_i hdot
    subst hdot
    decide +kernel
  · rfl

/-- The stem of a text is a text. -/
theorem exists_stem_of_isSource {file : String} (h : (ofString file).isSource = true) :
    ∃ stem, stem ≠ "" ∧ file = stem ++ ".sgoann" := by
  obtain ⟨stem, hne, hfile⟩ := isSource_iff.1 h
  have htext := text?_ofString file
  rw [hfile, text?_append_sgoann, Option.map_eq_some_iff] at htext
  obtain ⟨text, hstem, rfl⟩ := htext
  refine ⟨text, ?_, rfl⟩
  rintro rfl
  have hempty := Utf8.text?_eq_some_iff.1 hstem
  simp at hempty
  exact hne hempty

end FileName

namespace Path

/-- The segments of the package: the names, the last one without its extension. -/
theorem segments_map_name (dirs : List FileName) (file : FileName) :
    PathComponent.segments ((dirs ++ [file]).map .name) = dirs ++ [withoutExtension file] := by
  induction dirs with
  | nil => rfl
  | cons dir more ih =>
      cases more with
      | nil => rfl
      | cons next rest => exact congrArg (List.cons dir) ih

/-- **The package of a file below the root** does not depend on the root. -/
theorem packagePath?_descend (root : Path) {dirs : List FileName} {file : FileName}
    (h : ∀ name ∈ dirs ++ [file], name.IsProper) :
    root.packagePath? (root.descend (dirs ++ [file])) =
      (dirs.mapM fun name => Utf8.text? name.toByteArray).bind fun texts =>
        (Utf8.text? (withoutExtension file).toByteArray).map fun last =>
          "/".intercalate (texts ++ [last]) := by
  rw [packagePath?, below?_descend root h]
  simp only [Option.bind_eq_bind, Option.bind_some, segments_map_name, List.mapM_append,
    List.mapM_cons, List.mapM_nil]
  cases dirs.mapM fun name => Utf8.text? name.toByteArray with
  | none => rfl
  | some texts => cases Utf8.text? (withoutExtension file).toByteArray <;> simp

theorem packagePath?_congr (root root' : Path) {names : List FileName}
    (h : ∀ name ∈ names, name.IsProper) :
    root.packagePath? (root.descend names) = root'.packagePath? (root'.descend names) := by
  rw [packagePath?, packagePath?, below?_descend root h, below?_descend root' h]

/-- **A file has a package** exactly if all names that lead to it are UTF-8. -/
theorem isSome_packagePath?_iff (root : Path) {names : List FileName}
    (h : ∀ name ∈ names, name.IsProper) (hsource : names.getLast?.any FileName.isSource = true) :
    (root.packagePath? (root.descend names)).isSome = true ↔
      ∀ name ∈ names, name.toByteArray.IsValidUTF8 := by
  rcases List.eq_nil_or_concat' names with rfl | ⟨dirs, file, rfl⟩
  · cases hsource
  · have hfile : file.isSource = true := by simpa using hsource
    rw [packagePath?_descend root h, List.forall_mem_append, List.forall_mem_singleton,
      ← Utf8.isSome_mapM_text?_iff, ← Utf8.isSome_text?_iff,
      ← FileName.isSome_text?_withoutExtension hfile]
    cases dirs.mapM fun name => Utf8.text? name.toByteArray <;> simp

theorem mapM_text?_ofString (texts : List String) :
    (texts.map FileName.ofString).mapM (fun name => Utf8.text? name.toByteArray) = some texts := by
  rw [List.mapM_map]
  induction texts with
  | nil => rfl
  | cons text more ih => simp [List.mapM_cons, ih, FileName.text?_ofString]

/-- Where a text names the file, so does it name the package. -/
theorem packagePath?_descend_ofString (root : Path) {dirs : List String} {stem : String}
    (h : ∀ name ∈ (dirs ++ [stem ++ ".sgoann"]).map FileName.ofString, name.IsProper)
    (hne : stem ≠ "") :
    root.packagePath? (root.descend ((dirs ++ [stem ++ ".sgoann"]).map FileName.ofString)) =
      some ("/".intercalate (dirs ++ [if stem = "." then ".." else stem])) := by
  have hname : withoutExtension (FileName.ofString (stem ++ ".sgoann")) =
      FileName.ofString (if stem = "." then ".." else stem) := by
    have hdot : FileName.ofString "." = [dot] := by decide +kernel
    have hdots : FileName.ofString ".." = [dot, dot] := by decide +kernel
    have hempty : FileName.ofString "" = [] := by decide +kernel
    have hstem : FileName.ofString stem ≠ [] := by
      rw [← hempty]
      exact fun hempty => hne (FileName.ofString_injective hempty)
    rw [FileName.ofString_append, FileName.withoutExtension_append hstem,
      apply_ite FileName.ofString, hdots, ← hdot]
    simp only [FileName.ofString_injective.eq_iff]
  rw [List.map_append, List.map_singleton] at h ⊢
  rw [packagePath?_descend root h, mapM_text?_ofString, hname, FileName.text?_ofString]
  rfl

end Path

/-- Text behind the last of joined texts is text behind all of them. -/
theorem intercalate_concat_append (separator : String) (front : List String)
    (last more : String) :
    separator.intercalate (front ++ [last ++ more]) =
      separator.intercalate (front ++ [last]) ++ more := by
  by_cases hne : front = []
  · simp [hne]
  · rw [String.intercalate_append_of_ne_nil hne (List.cons_ne_nil _ _),
      String.intercalate_append_of_ne_nil hne (List.cons_ne_nil _ _)]
    simp [String.append_assoc]

/-- Names that slashes join are determined by what they are joined to. -/
theorem FileName.eq_of_intercalate_eq {names other : List String} (hne : names ≠ [])
    (hne' : other ≠ []) (h : ∀ name ∈ names, Path.slash ∉ ofString name)
    (h' : ∀ name ∈ other, Path.slash ∉ ofString name)
    (hjoin : "/".intercalate names = "/".intercalate other) : names = other := by
  have hbytes := congrArg (Path.piecesOf ∘ ofString) hjoin
  simp only [Function.comp_apply, ofString_intercalate] at hbytes
  rw [Path.piecesOf_intercalate (by simpa using hne) (by simpa using h),
    Path.piecesOf_intercalate (by simpa using hne') (by simpa using h')] at hbytes
  exact List.map_injective_iff.2 ofString_injective hbytes

/-- The name of an annotation file as its package has it: one dot in front of the
extension becomes two. -/
def FileName.inPackage (file : String) : String :=
  if file = "..sgoann" then "...sgoann" else file

/-- The package with the extension is the path of the file below the root. -/
theorem exists_package_of_file (root : Path) {dirs : List String} {file : String}
    (hproper : ∀ name ∈ dirs ++ [file], (FileName.ofString name).IsProper)
    (hsource : (FileName.ofString file).isSource = true) :
    ∃ package,
      packagePath root (root.descend ((dirs ++ [file]).map FileName.ofString)) = .ok package ∧
      package ++ ".sgoann" = "/".intercalate (dirs ++ [FileName.inPackage file]) := by
  obtain ⟨stem, hne, rfl⟩ := FileName.exists_stem_of_isSource hsource
  have hpackage := Path.packagePath?_descend_ofString root (List.forall_mem_map.2 hproper) hne
  have hname : (if stem = "." then ".." else stem) ++ ".sgoann" =
      FileName.inPackage (stem ++ ".sgoann") := by
    have hdots : "..sgoann" = "." ++ ".sgoann" := by decide
    have hstem : stem ++ ".sgoann" = "..sgoann" ↔ stem = "." := by
      rw [hdots, String.append_left_inj]
    simp only [FileName.inPackage, hstem]
    split <;> rfl
  refine ⟨_, by rw [packagePath, hpackage], ?_⟩
  rw [← intercalate_concat_append, hname]

/-- Files whose packages are alike differ at most in whether one dot or two stand in front
of the extension. -/
theorem FileName.eq_of_inPackage_eq {file other : String} (h : inPackage file = inPackage other) :
    other = file ∨ file = "..sgoann" ∧ other = "...sgoann" ∨
      file = "...sgoann" ∧ other = "..sgoann" := by
  unfold inPackage at h
  split at h <;> split at h <;> simp_all

theorem FileName.slash_not_mem_inPackage {file : String} (h : (ofString file).IsProper) :
    Path.slash ∉ ofString (inPackage file) := by
  have hdots : Path.slash ∉ ofString "...sgoann" := by decide +kernel
  unfold inPackage
  split
  · exact hdots
  · exact h.slash_not_mem

/-- **A package is the path of its file without the extension,** below whatever root, and
no other file below the root has it.  What is lost is the difference between the files
`..sgoann` and `...sgoann` in one directory. -/
theorem packagePath_determines_file (root : Path) (dirs : List String) (file : String)
    (hproper : ∀ name ∈ dirs ++ [file], (FileName.ofString name).IsProper)
    (hsource : (FileName.ofString file).isSource = true) :
    ∃ package,
      packagePath root (root.descend ((dirs ++ [file]).map FileName.ofString)) = .ok package ∧
      package ++ ".sgoann" =
        "/".intercalate (dirs ++ [if file = "..sgoann" then "...sgoann" else file]) ∧
      ∀ (dirs' : List String) (file' : String),
        (∀ name ∈ dirs' ++ [file'], (FileName.ofString name).IsProper) →
        (FileName.ofString file').isSource = true →
        packagePath root (root.descend ((dirs' ++ [file']).map FileName.ofString)) =
          .ok package →
        dirs' = dirs ∧ (file' = file ∨ file = "..sgoann" ∧ file' = "...sgoann" ∨
          file = "...sgoann" ∧ file' = "..sgoann") := by
  obtain ⟨package, hpackage, hjoin⟩ := exists_package_of_file root hproper hsource
  refine ⟨package, hpackage, hjoin, ?_⟩
  intro dirs' file' hproper' hsource' hsame
  obtain ⟨package', hpackage', hjoin'⟩ := exists_package_of_file root hproper' hsource'
  cases hsame.symm.trans hpackage'
  have hslash : ∀ {dirs : List String} {file : String},
      (∀ name ∈ dirs ++ [file], (FileName.ofString name).IsProper) →
      ∀ name ∈ dirs ++ [FileName.inPackage file], Path.slash ∉ FileName.ofString name := by
    intro dirs file hproper name hname
    rcases List.mem_append.1 hname with hdir | hfile
    · exact (hproper name (List.mem_append_left _ hdir)).slash_not_mem
    · rw [List.mem_singleton.1 hfile]
      exact FileName.slash_not_mem_inPackage (hproper file (by simp))
  have hnames := FileName.eq_of_intercalate_eq (by simp) (by simp) (hslash hproper)
    (hslash hproper') (hjoin.symm.trans hjoin')
  obtain ⟨hdirs, hfile⟩ := List.append_inj' hnames rfl
  exact ⟨hdirs.symm, FileName.eq_of_inPackage_eq (List.singleton_inj.1 hfile)⟩

/-- A file in a directory, below a root that is spelled with more than it needs. -/
theorem packagePath_net_http :
    packagePath (Path.ofString ".//anns/") (Path.ofString ".//anns/net/http.sgoann") =
      .ok "net/http" := by
  have hfile : (Path.ofString ".//anns/").descend (["net", "http.sgoann"].map FileName.ofString) =
      Path.ofString ".//anns/net/http.sgoann" := by
    decide +kernel
  have hproper : ∀ name ∈ ["net"] ++ ["http.sgoann"], (FileName.ofString name).IsProper := by
    decide +kernel
  obtain ⟨package, hpackage, hjoin, -⟩ := packagePath_determines_file (Path.ofString ".//anns/")
    ["net"] "http.sgoann" hproper (by decide +kernel)
  have hname : package = "net/http" := by
    rw [if_neg (by decide)] at hjoin
    have hwhole : "/".intercalate ["net", "http.sgoann"] = "net/http" ++ ".sgoann" := by decide
    exact (String.append_left_inj _).1 (hjoin.trans hwhole)
  rw [← hfile, ← hname]
  exact hpackage

/-- **One dot in front of the extension.**  A file with this name has the package of the
file with one dot more. -/
theorem packagePath_dot_sgoann :
    (∀ name ∈ ["..sgoann", "...sgoann"], (FileName.ofString name).IsProper ∧
      (FileName.ofString name).isSource = true ∧
      (Path.ofString "anns").descend [FileName.ofString name] =
        Path.ofString ("anns/" ++ name) ∧
      packagePath (Path.ofString "anns") (Path.ofString ("anns/" ++ name)) = .ok "..") ∧
    ".." ++ ".sgoann" ≠ "..sgoann" := by
  refine ⟨?_, by decide⟩
  have hnames : ∀ name ∈ ["..sgoann", "...sgoann"], (FileName.ofString name).IsProper ∧
      (FileName.ofString name).isSource = true ∧
      (Path.ofString "anns").descend [FileName.ofString name] =
        Path.ofString ("anns/" ++ name) := by
    decide +kernel
  intro name hname
  obtain ⟨hproper, hsource, hpath⟩ := hnames name hname
  refine ⟨hproper, hsource, hpath, ?_⟩
  obtain ⟨stem, hstem, rfl, hdots⟩ : ∃ stem, stem ≠ "" ∧ name = stem ++ ".sgoann" ∧
      (if stem = "." then ".." else stem) = ".." := by
    simp only [List.mem_cons, List.not_mem_nil, or_false] at hname
    rcases hname with rfl | rfl
    · exact ⟨".", by decide⟩
    · exact ⟨"..", by decide⟩
  have hpackage := @Path.packagePath?_descend_ofString (Path.ofString "anns") [] stem
    (by simpa using hproper) hstem
  rw [hdots, List.nil_append, List.map_singleton, List.nil_append,
    String.intercalate_singleton] at hpackage
  rw [← hpath, packagePath, hpackage]

end SymbolAnnotations
