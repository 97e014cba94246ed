import SymbolAnnotations.Text.Utf8

/-!
# File paths

File names are byte strings without a slash, and a path is a byte string with
slashes between names.  Two spellings of a path mean the same if they have the
same components: empty pieces count for nothing, and `.` counts only at the
very beginning.

An annotation file belongs to the package that is spelled like its path below
the root directory, without the extension (`packagePath?`).

* `intercalate_piecesOf`, `slash_not_mem_of_mem_piecesOf` — the pieces of a
  byte string are what slashes join to it.
-/

namespace SymbolAnnotations

/-- A file name. -/
abbrev FileName := List UInt8

/-- A path as it is spelled. -/
structure Path where
  bytes : List UInt8
deriving DecidableEq, Repr

/-- A part of a path. -/
inductive PathComponent where
  /-- The slash that an absolute path begins with. -/
  | root
  /-- The `.` that a path begins with. -/
  | current
  /-- A `..`. -/
  | parent
  | name (bytes : FileName)
deriving DecidableEq, Repr

namespace Path

/-- The byte between names. -/
def slash : UInt8 := 0x2F

/-- The byte before an extension. -/
def dot : UInt8 := 0x2E

/-- The path that a text spells. -/
def ofString (text : String) : Path :=
  ⟨text.toUTF8.toList⟩

/-- The text to show for a path. -/
def display (path : Path) : String :=
  Utf8.lossy path.bytes.toByteArray

/-- The pieces of a byte string between its slashes. -/
def piecesOf : List UInt8 → List FileName
  | [] => [[]]
  | byte :: rest =>
    if byte = slash then
      [] :: piecesOf rest
    else
      match piecesOf rest with
      | [] => [[byte]]
      | piece :: pieces => (byte :: piece) :: pieces

theorem piecesOf_ne_nil (bytes : List UInt8) : piecesOf bytes ≠ [] := by
  fun_cases piecesOf bytes <;> simp_all

/-- The pieces, with slashes between them, make up the byte string. -/
theorem intercalate_piecesOf (bytes : List UInt8) :
    List.intercalate [slash] (piecesOf bytes) = bytes := by
  induction bytes with
  | nil => rfl
  | cons byte rest ih =>
    obtain ⟨piece, pieces, h⟩ := List.exists_cons_of_ne_nil (piecesOf_ne_nil rest)
    rw [h] at ih
    simp only [piecesOf, h]
    split
    · rename_i hslash
      simp [← ih, hslash, List.intercalate]
    · cases pieces <;> simp_all [List.intercalate]

/-- No piece holds a slash. -/
theorem slash_not_mem_of_mem_piecesOf {bytes piece : List UInt8} (h : piece ∈ piecesOf bytes) :
    slash ∉ piece := by
  induction bytes generalizing piece with
  | nil => simp_all [piecesOf]
  | cons byte rest ih =>
    obtain ⟨first, pieces, hrest⟩ := List.exists_cons_of_ne_nil (piecesOf_ne_nil rest)
    rw [hrest] at ih
    simp only [piecesOf, hrest] at h
    split at h
    · rcases List.mem_cons.1 h with rfl | h
      · exact List.not_mem_nil
      · exact ih h
    · rename_i hbyte
      rcases List.mem_cons.1 h with rfl | h
      · simp [Ne.symm hbyte, ih List.mem_cons_self]
      · exact ih (List.mem_cons_of_mem _ h)

/-- The pieces of the path between its slashes. -/
def pieces (path : Path) : List FileName :=
  piecesOf path.bytes

/-- Whether the path begins with a slash. -/
def isAbsolute (path : Path) : Bool :=
  path.bytes.head? == some slash

/-- The component that a piece stands for, wherever it is in the path. -/
def component? (piece : FileName) : Option PathComponent :=
  if piece = [] ∨ piece = [dot] then none
  else if piece = [dot, dot] then some .parent
  else some (.name piece)

/-- The components of a path. -/
def components (path : Path) : List PathComponent :=
  let inner := path.pieces.filterMap component?
  if path.isAbsolute then .root :: inner
  else if path.pieces.head? = some [dot] then .current :: inner
  else inner

/-- The path of an entry of the directory with this path. -/
def child (directory : Path) (name : FileName) : Path :=
  match directory.bytes.getLast? with
  | none => ⟨name⟩
  | some last =>
    if last = slash then ⟨directory.bytes ++ name⟩
    else ⟨directory.bytes ++ slash :: name⟩

/-- The path of what is reached from the directory by the names. -/
def descend (directory : Path) : List FileName → Path
  | [] => directory
  | names => directory.child (List.intercalate [slash] names)

/-- The stem and the extension of a file name: what stands before and behind
its last dot.  A name whose only dot comes first has no extension. -/
def stemAndExtension? (name : FileName) : Option (FileName × FileName) :=
  let extension := (name.reverse.takeWhile (· != dot)).reverse
  match name.reverse.dropWhile (· != dot) with
  | [] | [_] => none
  | _ :: stem => some (stem.reverse, extension)

/-- The extension of a file name. -/
def extension? (name : FileName) : Option FileName :=
  (stemAndExtension? name).map (·.2)

/-- The file name without its extension.  The extension goes before its dot
does, and where only `..` would remain by then the two dots stay, because they
name no file. -/
def withoutExtension (name : FileName) : FileName :=
  match stemAndExtension? name with
  | none => name
  | some (stem, _) => if stem = [dot] then [dot, dot] else stem

end Path

namespace PathComponent

/-- The bytes that a component is spelled with. -/
def spelling : PathComponent → FileName
  | root => [Path.slash]
  | current => [Path.dot]
  | parent => [Path.dot, Path.dot]
  | name bytes => bytes

/-- The segments of a package path for the components of a file's path below
the root directory: their spellings, the last one without its extension. -/
def segments : List PathComponent → List FileName
  | [] => []
  | [name bytes] => [Path.withoutExtension bytes]
  | component :: rest => component.spelling :: segments rest

end PathComponent

namespace Path

/-- What of `file` comes behind the components of `root`, if `file` begins with
these. -/
def below? (root file : Path) : Option (List PathComponent) :=
  if root.components.isPrefixOf file.components then
    some (file.components.drop root.components.length)
  else
    none

/-- The package of the annotation file with this path, below a root directory.
It needs a file that is below the root, and names that are UTF-8. -/
def packagePath? (root file : Path) : Option String := do
  let components ← root.below? file
  let segments ← (PathComponent.segments components).mapM fun name =>
    Utf8.text? name.toByteArray
  if segments.isEmpty then none else some ("/".intercalate segments)

end Path
end SymbolAnnotations
