import SymbolAnnotations.Command.Arguments
import SymbolAnnotations.Registry.Load
import SymbolAnnotations.Report
import SymbolAnnotations.Source.Tokenizer

/-!
# Running commands

A command sees the files through a view of the file system, and either prints
something or fails with a message.

* `check` reads everything it is given and reports on each path that fails;
* `dump` prints the store of a file or the registry of a directory;
* `lookup` prints one signature of a file;
* `lex` lists the tokens of a file.

A directory is loaded as a registry, whose first failure counts, and everything
else as one source.  `check` and `dump` load a path in the same way (`load`).  A
registry that fails says where a source is at fault, and the source is read
again for the report on it.
-/

namespace SymbolAnnotations

/-- Why a command fails: what the user is told, and the exit code. -/
structure CommandError where
  message : String
  exitCode : Int := 1
deriving DecidableEq, Repr

namespace CommandError

/-- The failure of a source that does not parse.  The message is a report. -/
def ofFault (path : Path) (source : ByteArray) (fault : ParseError) : CommandError :=
  { message := Report.text path.display source fault }

/-- The failure to load sources.  The message says no more than the failure does. -/
def ofLoadError (error : LoadError) : CommandError :=
  { message := "Error: " ++ error.message }

end CommandError

/-- What a path is loaded as. -/
inductive Loaded where
  | store (content : Store)
  | registry (content : Registry)

namespace Loaded

/-- What was loaded as it is printed. -/
def render : Loaded → OutputConfig → String
  | store content => content.render
  | registry content => content.render

end Loaded

namespace Command

/-- The source that a path names. -/
def readSource (view : FileView) (path : Path) : Except CommandError ByteArray :=
  (view.readSource path).mapError .ofLoadError

/-- The store of the source that a path names. -/
def loadStore (view : FileView) (path : Path) : Except CommandError Store := do
  let source ← readSource view path
  (Store.parse source).mapError (.ofFault path source)

/-- The failure of a registry.  What is shown of a source at fault is read by its path. -/
def registryFailure (view : FileView) : LoadError → CommandError
  | .parse _ path _ fault =>
    match readSource view path with
    | .ok source => .ofFault path source fault
    | .error failure => failure
  | error => .ofLoadError error

/-- The registry of a directory with these files, if it can be listed. -/
def loadRegistry (view : FileView) (path : Path)
    (listing : Except ListingError (List FoundFile)) : Except CommandError Registry :=
  (Registry.ofListing path listing).mapError (registryFailure view)

/-- Loads a directory as a registry and everything else as one source. -/
def load (view : FileView) (path : Path) : Except CommandError Loaded :=
  match view path with
  | .ok (.directory listing) => (loadRegistry view path listing).map .registry
  | _ => (loadStore view path).map .store

/-- What a check has found so far. -/
structure Checked where
  /-- How many paths were loaded. -/
  count : Nat := 0
  /-- The messages of those that failed. -/
  failures : List String := []

/-- Loads one more path. -/
def checkNext (view : FileView) (checked : Checked) (path : Path) : Checked :=
  match load view path with
  | .ok _ => { checked with count := checked.count + 1 }
  | .error failure => { checked with failures := checked.failures ++ [failure.message] }

/-- Loads all paths and reports every failure. -/
def runCheck (view : FileView) (paths : List Path) : Except CommandError String :=
  let checked := paths.foldl (checkNext view) {}
  if checked.failures.isEmpty then
    .ok ("✓ " ++ toString checked.count ++ " path(s) checked, no errors\n")
  else
    .error { message := "\n\n".intercalate checked.failures }

/-- Prints what a path is loaded as. -/
def runDump (view : FileView) (path : Path) (config : OutputConfig) :
    Except CommandError String :=
  (load view path).map (·.render config)

/-- Prints the signature of a symbol. -/
def runLookup (view : FileView) (path : Path) (symbol : String) :
    Except CommandError String := do
  let store ← loadStore view path
  match store.get? symbol with
  | some signature => return signature ++ "\n"
  | none =>
    throw { message := "Error: no annotation for '" ++ symbol ++ "' in '" ++ path.display ++ "'" }

/-- The line for a token: its place and its rune. -/
def tokenLine (token : Token) : String :=
  let position := token.position
  flushRight 4 (toString position.line) ++ ":" ++ flushLeft 4 (toString position.column) ++
    " byte " ++ flushLeft 6 (toString position.byteOffset) ++
    " rune " ++ flushLeft 6 (toString position.runeOffset) ++
    " " ++ Rune.quoted token.rune ++ "\n"

/-- Lists the tokens of a source. -/
def runLex (view : FileView) (path : Path) : Except CommandError String := do
  let source ← readSource view path
  let tokens ← (Tokenizer.tokenize source).mapError (.ofFault path source)
  return String.join (tokens.map tokenLine)

/-- What a command prints. -/
def run (view : FileView) : Command → Except CommandError String
  | check paths => runCheck view (paths.map .ofString)
  | dump path format compact separator =>
    runDump view (.ofString path) { format, pretty := !compact, separator }
  | lookup file symbol => runLookup view (.ofString file) symbol
  | lex file => runLex view (.ofString file)

end Command
end SymbolAnnotations
