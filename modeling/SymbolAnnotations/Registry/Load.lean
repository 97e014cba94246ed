import SymbolAnnotations.File.View
import SymbolAnnotations.Registry

/-!
# Registries from directories

Every file with the extension `sgoann` below a directory is a source of the
package that is named by its path.  The files are taken in the order of their
paths, name by name and byte by byte, whatever order the directory lists them
in, and the first one that cannot be used decides the failure.
-/

namespace SymbolAnnotations

/-- Why sources cannot be loaded. -/
inductive LoadError where
  | access (path : Path) (cause : SystemError)
  | tooLarge (path : Path) (size : Nat)
  /-- The path of the file is no name for a package. -/
  | invalidPackagePath (path : Path)
  /-- The source of the file is at fault. -/
  | parse (package : String) (path : Path) (source : ByteArray) (cause : ParseError)

namespace LoadError

/-- The path of what cannot be used. -/
def path : LoadError → Path
  | access path _ => path
  | tooLarge path _ => path
  | invalidPackagePath path => path
  | parse _ path _ _ => path

/-- The code under which the failure is filed. -/
def code : LoadError → String
  | access _ _ => "sgoann::io"
  | tooLarge _ _ => "sgoann::too_large"
  | invalidPackagePath _ => "sgoann::package_path"
  | parse _ _ _ _ => "sgoann::registry"

/-- The message for the failure. -/
def message : LoadError → String
  | access path cause => "I/O error on " ++ path.display ++ ": " ++ cause.description
  | tooLarge path size =>
    path.display ++ " is " ++ toString size ++ " bytes, larger than the " ++
      toString maxSourceSize ++ " byte limit"
  | invalidPackagePath path => "cannot derive a package path from " ++ path.display
  | parse package path _ _ =>
    "failed to parse annotations for package `" ++ package ++ "` (" ++ path.display ++ ")"

/-- The failure to read a file. -/
def ofReadError (path : Path) : ReadError → LoadError
  | .system cause => access path cause
  | .tooLarge size => tooLarge path size

end LoadError

/-- The source that a path names.  A directory has none. -/
def FileView.readSource (view : FileView) (path : Path) : Except LoadError ByteArray :=
  match view path with
  | .error cause => .error (.access path cause)
  | .ok (.directory _) => .error (.access path .isADirectory)
  | .ok (.file source) => source.mapError (.ofReadError path)

/-- The package of a file below a root directory. -/
def packagePath (root file : Path) : Except LoadError String :=
  match root.packagePath? file with
  | some package => .ok package
  | none => .error (.invalidPackagePath file)

/-- Whether a file of this name is an annotation file. -/
def FileName.isSource (name : FileName) : Bool :=
  Path.extension? name == some "sgoann".toUTF8.toList

namespace FoundFile

/-- Whether the file is an annotation file. -/
def isSource (file : FoundFile) : Bool :=
  file.names.getLast?.any FileName.isSource

/-- Whether the first file comes before the second: name by name, and each by
its bytes. -/
def le (a b : FoundFile) : Bool :=
  (compare a.names b.names).isLE

end FoundFile

namespace Registry

/-- The registry with the source of a file below the root added. -/
def addFile (root : Path) (registry : Registry) (file : FoundFile) :
    Except LoadError Registry := do
  let path := root.descend file.names
  let package ← packagePath root path
  let source ← file.source.mapError (.ofReadError path)
  (registry.addSource package source).mapError (.parse package path source)

/-- The annotation files among the files of a directory, in the order in which
they are added. -/
def annotationFiles (files : List FoundFile) : List FoundFile :=
  (files.filter (·.isSource)).mergeSort FoundFile.le

/-- The registry of the annotation files among the files below the root. -/
def ofFiles (root : Path) (files : List FoundFile) : Except LoadError Registry :=
  (annotationFiles files).foldlM (addFile root) empty

/-- The registry of a directory with these files, if it can be listed. -/
def ofListing (root : Path) :
    Except ListingError (List FoundFile) → Except LoadError Registry
  | .error refusal => .error (.access refusal.path refusal.cause)
  | .ok files => ofFiles root files

/-- The registry of the directory that a path names. -/
def loadDirectory (view : FileView) (root : Path) : Except LoadError Registry :=
  match view root with
  | .error cause => .error (.access root cause)
  | .ok (.file _) => .error (.access root .notADirectory)
  | .ok (.directory listing) => ofListing root listing

end Registry
end SymbolAnnotations
