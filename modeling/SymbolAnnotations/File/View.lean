import SymbolAnnotations.File.Path

/-!
# What a program sees of a file system

A path names a file or a directory, or the system refuses it.  A file is seen as
its source, and a directory as the files anywhere below it that are reached
without a symbolic link.  A file that is larger than any source may be is never
read; only its size is seen.
-/

namespace SymbolAnnotations

/-- Why the system refuses a path. -/
inductive SystemError where
  | notFound
  | notADirectory
  | isADirectory
  | nameTooLong
  | tooManyLinks
  /-- The path holds a zero byte. -/
  | zeroByte
  /-- A refusal of another kind, as the system words it. -/
  | other (text : String)
deriving DecidableEq, Repr

namespace SystemError

/-- What a message says about the refusal. -/
def description : SystemError → String
  | notFound => "No such file or directory (os error 2)"
  | notADirectory => "Not a directory (os error 20)"
  | isADirectory => "Is a directory (os error 21)"
  | nameTooLong => "File name too long (os error 36)"
  | tooManyLinks => "Too many levels of symbolic links (os error 40)"
  | zeroByte => "file name contained an unexpected NUL byte"
  | other text => text

end SystemError

/-- The most bytes that a source may have. -/
def maxSourceSize : Nat := 16 * 1024 * 1024

/-- Why a file yields no source. -/
inductive ReadError where
  | system (cause : SystemError)
  /-- The file is larger than a source may be. -/
  | tooLarge (size : Nat)
deriving DecidableEq, Repr

/-- A file below a directory. -/
structure FoundFile where
  /-- The names that lead to the file from the directory. -/
  names : List FileName
  source : Except ReadError ByteArray

/-- A directory on the way to the files that the system refuses to list. -/
structure ListingError where
  path : Path
  cause : SystemError
deriving DecidableEq, Repr

/-- What a path names. -/
inductive Target where
  | file (source : Except ReadError ByteArray)
  /-- A directory, with the files at any depth below it.  Symbolic links are
  neither files nor followed. -/
  | directory (files : Except ListingError (List FoundFile))

/-- What a program sees of a file system: what each path names, unless the
system refuses the path. -/
abbrev FileView := Path → Except SystemError Target

end SymbolAnnotations
