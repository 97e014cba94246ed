import SymbolAnnotations.Program

/-!
# The command line

Before a command runs, the paths that it names are looked up, with the files
below them, so that the program proper sees nothing but a view of the file
system.
-/

namespace SymbolAnnotations

/-- The cause with this error number.  Some calls negate the number. -/
def SystemError.ofNumber (code : UInt32) (details : String) : SystemError :=
  let number := min code (0 - code)
  match number with
  | 2 => notFound
  | 20 => notADirectory
  | 21 => isADirectory
  | 36 => nameTooLong
  | 40 => tooManyLinks
  | _ => other (details ++ " (os error " ++ toString number ++ ")")

/-- The cause of a failed system call. -/
def SystemError.ofFailure : IO.Error → SystemError
  | .noFileOrDirectory _ code details => ofNumber code details
  | .alreadyExists _ code details => ofNumber code details
  | .invalidArgument _ code details => ofNumber code details
  | .permissionDenied _ code details => ofNumber code details
  | .resourceExhausted _ code details => ofNumber code details
  | .inappropriateType _ code details => ofNumber code details
  | .noSuchThing _ code details => ofNumber code details
  | .interrupted _ code details => ofNumber code details
  | .otherError code details => ofNumber code details
  | .resourceBusy code details => ofNumber code details
  | .resourceVanished code details => ofNumber code details
  | .unsupportedOperation code details => ofNumber code details
  | .hardwareFault code details => ofNumber code details
  | .unsatisfiedConstraints code details => ofNumber code details
  | .illegalOperation code details => ofNumber code details
  | .protocolError code details => ofNumber code details
  | .timeExpired code details => ofNumber code details
  | failure => other (toString failure)

/-- A system call whose failure is a value. -/
def attempt (call : IO α) : BaseIO (Except SystemError α) :=
  return (← call.toBaseIO).mapError .ofFailure

/-- The place that a text spells. -/
def placeSpelled (text : String) :=
  (IO.FS.DirEntry.mk text "").root

/-- Reads a file, unless it is too large. -/
def readFile (file : String) : BaseIO (Except ReadError ByteArray) := do
  match ← attempt (placeSpelled file).metadata with
  | .error cause => return .error (.system cause)
  | .ok found =>
    let size := found.byteSize.toNat
    if size > maxSourceSize then return .error (.tooLarge size)
    let content := IO.FS.withFile file .read (·.readBinToEnd)
    return (← attempt content).mapError .system

/-- The entries of the directory at `path`, each with the kind of what it is. -/
def listEntries (path : Path) : IO (List (FileName × IO.FS.FileType)) := do
  let entries ← (placeSpelled path.display).readDir
  let directory ← IO.FS.realPath path.display
  entries.toList.mapM fun entry => do
    let found ← { entry with root := directory }.path.symlinkMetadata
    return (entry.fileName.toUTF8.toList, found.type)

/-- The annotation files in the directory at `path` and below it, each with the
names that lead there behind `names`.  Symbolic links are passed over. -/
partial def listFiles (path : Path) (names : List FileName) :
    BaseIO (Except ListingError (List FoundFile)) := do
  match ← attempt (listEntries path) with
  | .error cause => return .error ⟨path, cause⟩
  | .ok entries =>
    let mut files := []
    for (name, type) in entries do
      let inner := path.child name
      match type with
      | .symlink => pure ()
      | .dir =>
        match ← listFiles inner (names ++ [name]) with
        | .error refusal => return .error refusal
        | .ok below => files := files ++ below
      | _ =>
        if FileName.isSource name then
          files := files ++ [⟨names ++ [name], ← readFile inner.display⟩]
    return .ok files

/-- What a path names. -/
def lookUp (text : String) : BaseIO (Except SystemError Target) := do
  if text.contains '\x00' then return .error .zeroByte
  match ← attempt (placeSpelled text).metadata with
  | .error cause => return .error cause
  | .ok found =>
    match found.type with
    | .dir => return .ok (.directory (← listFiles (.ofString text) []))
    | _ => return .ok (.file (← readFile text))

/-- The files that were found below a path, each by a path of its own. -/
def filesBelow : Path × Except SystemError Target → List (Path × Except SystemError Target)
  | (root, .ok (.directory (.ok files))) =>
    files.map fun file => (root.descend file.names, .ok (.file file.source))
  | _ => []

/-- The view of what is at the given paths and of the files below them. -/
def viewOf (paths : List String) : BaseIO FileView := do
  let named ← paths.mapM fun text => return (Path.ofString text, ← lookUp text)
  let found := named ++ named.flatMap filesBelow
  return fun path => (found.lookup path).getD (.error .notFound)

/-- The paths that are named by arguments, if they make a command. -/
def namedPaths (arguments : List String) : List String :=
  match Command.ofArguments arguments with
  | .error _ => []
  | .ok command => command.paths

/-- Runs the program on arguments, and prints what it leaves behind. -/
def runCommandLine (arguments : List String) : IO UInt32 := do
  let view ← viewOf (namedPaths arguments)
  let outcome := runProgram view arguments
  (← IO.getStdout).putStr outcome.output
  (← IO.getStderr).putStr outcome.errors
  return outcome.exitCode.toNat.toUInt32

end SymbolAnnotations

/-- The entry point of the program. -/
def main (arguments : List String) : IO UInt32 :=
  SymbolAnnotations.runCommandLine arguments
