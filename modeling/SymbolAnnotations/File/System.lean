import SymbolAnnotations.File.Directory

/-!
# File systems

A file system is a directory tree with a working directory in it.  A path is
resolved name by name from the top of the tree or from the working directory,
and symbolic links on the way are followed.  `put` writes to the place where a
path leads, and `look` is what a program sees.
-/

namespace SymbolAnnotations

/-- A directory tree, and the names that lead from its top to the working
directory. -/
structure FileSystem where
  top : Directory
  workingDirectory : List FileName

namespace FileSystem

/-- The most bytes that a name may have. -/
def maxNameLength : Nat := 255

/-- The most bytes that a path may have. -/
def maxPathLength : Nat := 4095

/-- How many links the resolution of one path follows. -/
def maxLinks : Nat := 40

/-- Where a path leads. -/
inductive Place where
  | file (content : Content)
  | directory (trail : Trail)

/-- Where the pieces of a path lead from the end of a trail, if at most `links`
links are on the way.  Only a directory has pieces behind it. -/
def resolveFrom (links : Nat) (trail : Trail) : List FileName → Except SystemError Place
  | [] => .ok (.directory trail)
  | piece :: rest =>
    if piece = [] ∨ piece = [Path.dot] then
      resolveFrom links trail rest
    else if piece = [Path.dot, Path.dot] then
      resolveFrom links trail.leave rest
    else if piece.length > maxNameLength then
      .error .nameTooLong
    else
      match trail.here.node? piece with
      | none => .error .notFound
      | some (.directory inner) => resolveFrom links (trail.enter piece inner) rest
      | some (.file content) =>
        if rest.isEmpty then .ok (.file content) else .error .notADirectory
      | some (.link target) =>
        match links with
        | 0 => .error .tooManyLinks
        | links + 1 =>
          resolveFrom links (if target.isAbsolute then trail.root else trail)
            (target.pieces ++ rest)
termination_by pieces => (links, pieces.length)

/-- The directory that a piece of a path leads to from the end of a trail.  It
is made if there is none. -/
def enterOrMake (trail : Trail) (piece : FileName) : Trail :=
  match resolveFrom maxLinks trail [piece] with
  | .ok (.directory inner) => inner
  | _ => trail.enter piece .empty

/-- The trail on which a path begins. -/
def start (system : FileSystem) (path : Path) : Trail :=
  if path.isAbsolute then ⟨system.top, []⟩
  else system.workingDirectory.foldl enterOrMake ⟨system.top, []⟩

/-- Why the system refuses a path as it is spelled, wherever it may lead. -/
def refusal? (path : Path) : Option SystemError :=
  if path.bytes.contains 0 then some .zeroByte
  else if path.bytes.isEmpty then some .notFound
  else if path.bytes.length > maxPathLength then some .nameTooLong
  else none

/-- Where a path leads. -/
def resolve (system : FileSystem) (path : Path) : Except SystemError Place :=
  match refusal? path with
  | some cause => .error cause
  | none => resolveFrom maxLinks (system.start path) path.pieces

/-- The source of a file that is read by this path. -/
def readAs (path : Path) (content : Content) : Except ReadError ByteArray :=
  match refusal? path with
  | some cause => .error (.system cause)
  | none => content.source

/-- The files in a directory and below it, where `path` leads to the directory
and `names` are the names behind the path where the search began.  The path that
a file or a directory is found under leads there, so the system refuses it only
for its spelling; the first directory that it refuses counts. -/
def filesFrom (path : Path) (names : List FileName) :
    Directory → Except ListingError (List FoundFile)
  | .empty => .ok []
  | .file name content others => do
    let files ← filesFrom path names others
    return ⟨names ++ [name], readAs (path.child name) content⟩ :: files
  | .link _ _ others => filesFrom path names others
  | .subdirectory name inner others =>
    let inside := path.child name
    match refusal? inside with
    | some cause => .error ⟨inside, cause⟩
    | none => do
      let below ← filesFrom inside (names ++ [name]) inner
      let files ← filesFrom path names others
      return below ++ files

/-- What a program sees of the file system. -/
def look (system : FileSystem) : FileView := fun path =>
  match system.resolve path with
  | .error cause => .error cause
  | .ok (.file content) => .ok (.file content.source)
  | .ok (.directory trail) => .ok (.directory (filesFrom path [] trail.here))

/-- A file system that holds nothing but its working directory. -/
def empty : FileSystem :=
  { top := .empty, workingDirectory := ["home".toUTF8.toList] }

/-- Where a file comes to be that is written under a name at the end of a trail,
if at most `links` links lead on from there.  A link leads on even if nothing is
at its end. -/
def destination : (links : Nat) → Trail → FileName → Trail × FileName
  | 0, trail, name => (trail, name)
  | links + 1, trail, name =>
    match trail.here.node? name with
    | some (.link target) =>
      let start := if target.isAbsolute then trail.root else trail
      match resolveFrom maxLinks start target.pieces.dropLast with
      | .ok (.directory inner) => destination links inner (target.pieces.getLast?.getD [])
      | _ => (trail, name)
    | _ => (trail, name)

/-- Puts a node under a name at the end of a trail.  A directory that is there
already stays as it is, and a file goes to the end of the links that the name
leads to. -/
def putAt (trail : Trail) (name : FileName) : Node → Trail
  | .directory inner =>
    match resolveFrom maxLinks trail [name] with
    | .ok (.directory found) => found
    | _ => trail.set name (.directory inner)
  | .file content =>
    let (trail, name) := destination maxLinks trail name
    trail.set name (.file content)
  | .link target => trail.set name (.link target)

/-- Puts a node where a path leads, and makes the directories on the way. -/
def put (system : FileSystem) (path : Path) (node : Node) : FileSystem :=
  let trail := path.pieces.dropLast.foldl enterOrMake (system.start path)
  let name := path.pieces.getLast?.getD []
  { system with top := (putAt trail name node).root.here }

end FileSystem
end SymbolAnnotations
