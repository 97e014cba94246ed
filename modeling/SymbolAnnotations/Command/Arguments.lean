import SymbolAnnotations.Output

/-!
# Command line arguments

    sgoann check PATH...
    sgoann dump PATH [--format text|json] [--compact] [--separator SEP]
    sgoann lookup FILE SYMBOL
    sgoann lex FILE

Arguments are read from left to right, and the first one that is at fault
decides the error.  The value of an option or of a positional argument is only
judged once the next argument has been recognized, or at the end: an unknown
option right behind a bad value is the fault that is reported.  Behind `--`
every argument is positional.
-/

namespace SymbolAnnotations

/-- The names of the commands. -/
inductive CommandName where
  | check
  | dump
  | lookup
  | lex
deriving DecidableEq, Repr

namespace CommandName

/-- All commands. -/
def all : List CommandName :=
  [check, dump, lookup, lex]

/-- How a command is written. -/
def spelling : CommandName → String
  | check => "check"
  | dump => "dump"
  | lookup => "lookup"
  | lex => "lex"

/-- The command that is written like this. -/
def ofSpelling? (text : String) : Option CommandName :=
  all.find? (·.spelling == text)

/-- A word is a command exactly when it is written that way. -/
theorem ofSpelling?_eq_some_iff {text : String} {command : CommandName} :
    ofSpelling? text = some command ↔ command.spelling = text := by
  constructor
  · intro h
    simpa using List.find?_some h
  · rintro rfl
    cases command <;> decide

end CommandName

/-- A command with its arguments. -/
inductive Command where
  | check (paths : List String)
  | dump (path : String) (format : OutputFormat) (compact : Bool) (separator : String)
  | lookup (file symbol : String)
  | lex (file : String)
deriving DecidableEq, Repr

namespace Command

/-- The paths that a command reads. -/
def paths : Command → List String
  | check paths => paths
  | dump path _ _ _ => [path]
  | lookup file _ => [file]
  | lex file => [file]

end Command

/-- Why arguments make no command. -/
inductive UsageError where
  /-- Help is asked for, on one command or on all. -/
  | help (command : Option CommandName)
  /-- The version is asked for. -/
  | version
  /-- There is no argument. -/
  | noArguments
  /-- The first word is no command. -/
  | unknownCommand
  /-- The option does not exist, or there are too many positional arguments. -/
  | unknownArgument
  /-- A value is missing or not allowed. -/
  | invalidValue
  /-- An option is given twice. -/
  | argumentConflict
  /-- An option that takes no value has one. -/
  | tooManyValues
  /-- A positional argument is missing. -/
  | missingArgument
deriving DecidableEq, Repr

namespace UsageError

/-- The exit code: asking for help or the version is no failure. -/
def exitCode : UsageError → Nat
  | help _ => 0
  | version => 0
  | _ => 2

end UsageError

/-- What an argument looks like. -/
inductive Argument where
  /-- A `--` alone. -/
  | dashes
  /-- `--name` or `--name=value`. -/
  | long (name : String) (value : Option String)
  /-- A dash and at least one letter; only the first one matters. -/
  | short (letter : Char)
  /-- Anything else, a dash alone among it. -/
  | plain (text : String)
deriving DecidableEq, Repr

namespace Argument

/-- Tells what an argument looks like. -/
def ofString (text : String) : Argument :=
  match text.toList with
  | ['-', '-'] => dashes
  | '-' :: '-' :: rest =>
    let name := String.ofList (rest.takeWhile (· != '='))
    match rest.dropWhile (· != '=') with
    | [] => long name none
    | _ :: value => long name (some (String.ofList value))
  | '-' :: letter :: _ => short letter
  | _ => plain text

end Argument

/-- The options that take a value. -/
inductive Setting where
  | format
  | separator
deriving DecidableEq, Repr

/-- The options of commands. -/
inductive OptionName where
  | help
  | compact
  | setting (which : Setting)
deriving DecidableEq, Repr

/-- The positional arguments of commands. -/
inductive Slot where
  /-- Any number of paths. -/
  | paths
  /-- One path. -/
  | path
  /-- A symbol path.  Unlike the paths of files it may be empty. -/
  | symbol
deriving DecidableEq, Repr

namespace CommandName

/-- The option of a command with this name.  Names are not abbreviated. -/
def option? : CommandName → String → Option OptionName
  | _, "help" => some .help
  | dump, "compact" => some .compact
  | dump, "format" => some (.setting .format)
  | dump, "separator" => some (.setting .separator)
  | _, _ => none

/-- What the next positional argument is after `count` of them. -/
def slot? : CommandName → (count : Nat) → Option Slot
  | check, _ => some .paths
  | dump, 0 => some .path
  | lookup, 0 => some .path
  | lookup, 1 => some .symbol
  | lex, 0 => some .path
  | _, _ => none

end CommandName

/-- An argument that is recognized and not judged yet. -/
inductive Pending where
  /-- An option, and its value once that has come. -/
  | setting (which : Setting) (value : Option String)
  /-- Positional arguments of one kind. -/
  | positional (slot : Slot) (values : List String)
deriving DecidableEq, Repr

/-- What is known of a command while its arguments are read. -/
structure Draft where
  command : CommandName
  positionals : List String := []
  format : Option OutputFormat := none
  separator : Option String := none
  compact : Bool := false
  pending : Option Pending := none
deriving DecidableEq, Repr

namespace Draft

/-- The format that is written like this. -/
def formatOf? : String → Option OutputFormat
  | "text" => some .text
  | "json" => some .json
  | _ => none

/-- Gives an option its value, for the first time. -/
def set (draft : Draft) (which : Setting) (value : String) : Except UsageError Draft :=
  match which with
  | .format =>
    match draft.format, formatOf? value with
    | some _, _ => .error .argumentConflict
    | none, none => .error .invalidValue
    | none, some format => .ok { draft with format := some format }
  | .separator =>
    match draft.separator with
    | some _ => .error .argumentConflict
    | none => .ok { draft with separator := some value }

/-- Judges what is pending. -/
def settle (draft : Draft) : Except UsageError Draft :=
  let settled := { draft with pending := none }
  match draft.pending with
  | none => .ok settled
  | some (.setting _ none) => .error .invalidValue
  | some (.setting which (some value)) => settled.set which value
  | some (.positional slot values) =>
    if slot != .symbol && values.any (·.isEmpty) then .error .invalidValue
    else .ok { settled with positionals := settled.positionals ++ values }

/-- The number of positional arguments so far. -/
def count (draft : Draft) : Nat :=
  match draft.pending with
  | some (.positional _ values) => draft.positionals.length + values.length
  | _ => draft.positionals.length

/-- Takes a positional argument. -/
def addPositional (draft : Draft) (value : String) : Except UsageError Draft :=
  match draft.command.slot? draft.count, draft.pending with
  | none, _ => .error .unknownArgument
  | some .paths, some (.positional .paths values) =>
    .ok { draft with pending := some (.positional .paths (values ++ [value])) }
  | some slot, _ => do
    let settled ← draft.settle
    return { settled with pending := some (.positional slot [value]) }

/-- Takes an option, with the value that is attached to it. -/
def addOption (draft : Draft) (option : OptionName) (attached : Option String) :
    Except UsageError Draft :=
  match option, attached with
  | .setting which, some value => do
    let settled ← draft.settle
    settled.set which value
  | .setting which, none => do
    let settled ← draft.settle
    return { settled with pending := some (.setting which none) }
  | .help, some _ | .compact, some _ => .error .tooManyValues
  | .help, none => do
    let settled ← draft.settle
    throw (.help settled.command)
  | .compact, none => do
    let settled ← draft.settle
    if settled.compact then throw .argumentConflict
    else return { settled with compact := true }

/-- Takes an argument that is neither an option nor the end of options: the
value that an option waits for, or else a positional argument. -/
def addValue (draft : Draft) (value : String) : Except UsageError Draft :=
  match draft.pending with
  | some (.setting which none) =>
    .ok { draft with pending := some (.setting which (some value)) }
  | _ => draft.addPositional value

/-- Takes all arguments, in turn. -/
def addAll (draft : Draft) : List String → Except UsageError Draft
  | [] => .ok draft
  | argument :: rest =>
    match Argument.ofString argument with
    | .dashes => rest.foldlM addPositional draft
    | .long name attached =>
      match draft.command.option? name with
      | none => .error .unknownArgument
      | some option => do (← draft.addOption option attached).addAll rest
    | .short letter =>
      if letter = 'h' then do (← draft.addOption .help none).addAll rest
      else .error .unknownArgument
    | .plain value => do (← draft.addValue value).addAll rest

/-- The command, once all its arguments are there. -/
def finish (draft : Draft) : Except UsageError Command := do
  let settled ← draft.settle
  match settled.command, settled.positionals with
  | .check, path :: rest => return .check (path :: rest)
  | .dump, [path] =>
    return .dump path (settled.format.getD .text) settled.compact (settled.separator.getD "\t")
  | .lookup, [file, symbol] => return .lookup file symbol
  | .lex, [file] => return .lex file
  | _, _ => throw .missingArgument

end Draft

namespace Command

/-- What asking for help on these words says.  They name at most one command,
and `help` itself may stand for it. -/
def helpOn : List String → UsageError
  | [] => .help none
  | [word] =>
    match CommandName.ofSpelling? word with
    | some command => .help (some command)
    | none => if word = "help" then .help none else .unknownCommand
  | _ => .unknownCommand

/-- What is wrong with arguments that begin with `--`.  Commands have to stand
before it. -/
def afterDashes : List String → UsageError
  | [] => .noArguments
  | word :: _ =>
    if word = "help" ∨ (CommandName.ofSpelling? word).isSome then .unknownArgument
    else .unknownCommand

/-- The command that the arguments make. -/
def ofArguments : List String → Except UsageError Command
  | [] => .error .noArguments
  | first :: rest =>
    match CommandName.ofSpelling? first with
    | some command => do (← Draft.addAll { command } rest).finish
    | none =>
      if first = "help" then .error (helpOn rest)
      else
        match Argument.ofString first with
        | .dashes => .error (afterDashes rest)
        | .long "help" none | .short 'h' => .error (.help none)
        | .long "version" none | .short 'V' => .error .version
        | .long "help" (some _) | .long "version" (some _) => .error .tooManyValues
        | .long _ _ | .short _ => .error .unknownArgument
        | .plain _ => .error .unknownCommand

end Command
end SymbolAnnotations
