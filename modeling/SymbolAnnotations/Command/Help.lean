import SymbolAnnotations.Command.Arguments
import SymbolAnnotations.Text.Column

/-!
# Help and usage

What the program says about itself: the version, the help texts, and what is
wrong with arguments that make no command.
-/

namespace SymbolAnnotations

/-- The name and the version of the program. -/
def versionText : String :=
  "sgoann 0.1.0\n"

namespace CommandName

/-- The arguments of a command, as its usage shows them. -/
def arguments : CommandName → String
  | check => "<PATH>..."
  | dump => "[OPTIONS] <PATH>"
  | lookup => "<FILE> <SYMBOL>"
  | lex => "<FILE>"

/-- What a command does. -/
def summary : CommandName → String
  | check => "Parse annotation files and report errors"
  | dump => "Print the symbol path → signature mapping"
  | lookup => "Print the signature of one symbol path"
  | lex => "Print the token stream with positions (debug)"

/-- The options of a command and what they do. -/
def optionSummaries : CommandName → List (String × String)
  | dump =>
    [("--format <FORMAT>", "Output format: text or json"),
      ("--compact", "Single-line JSON"),
      ("--separator <SEP>", "Separator between path and signature in text output"),
      ("-h, --help", "Print help")]
  | _ => [("-h, --help", "Print help")]

end CommandName

/-- Rows of two columns, under a heading. -/
def helpSection (heading : String) (rows : List (String × String)) : String :=
  let width := (rows.map (·.1.length)).foldl max 0
  "\n" ++ heading ++ ":\n" ++
    String.join (rows.map fun row => "  " ++ flushLeft width row.1 ++ "  " ++ row.2 ++ "\n")

/-- How one command or, without a command, the program is called. -/
def usageText : Option CommandName → String
  | none => "Usage: sgoann <COMMAND>\n"
  | some command => "Usage: sgoann " ++ command.spelling ++ " " ++ command.arguments ++ "\n"

/-- The help on one command or, without a command, on the program. -/
def helpText : Option CommandName → String
  | none =>
    "Check, inspect and query .sgoann type annotation files\n\n" ++ usageText none ++
      helpSection "Commands"
        (CommandName.all.map (fun command => (command.spelling, command.summary)) ++
          [("help", "Print this message or the help of a command")]) ++
      helpSection "Options" [("-h, --help", "Print help"), ("-V, --version", "Print version")]
  | some command =>
    command.summary ++ "\n\n" ++ usageText (some command) ++
      helpSection "Options" command.optionSummaries

namespace UsageError

/-- What is wrong with the arguments, where they ask for nothing. -/
def fault? : UsageError → Option String
  | help _ => none
  | version => none
  | noArguments => some "a command is required"
  | unknownCommand => some "there is no such command"
  | unknownArgument => some "there is an argument that is not expected"
  | invalidValue => some "a value is missing or not allowed"
  | argumentConflict => some "an option is given more than once"
  | tooManyValues => some "an option that takes no value has one"
  | missingArgument => some "a required argument is missing"

/-- The text for the arguments: what they ask for, or what is wrong with
them. -/
def text (error : UsageError) : String :=
  match error with
  | help command => helpText command
  | version => versionText
  | _ =>
    String.join (error.fault?.toList.map fun fault => "error: " ++ fault ++ "\n\n") ++
      usageText none ++ "\nFor more information, try '--help'.\n"

end UsageError
end SymbolAnnotations
