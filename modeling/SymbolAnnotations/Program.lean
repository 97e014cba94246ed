import SymbolAnnotations.Command.Help
import SymbolAnnotations.Command.Run

/-!
# The program

The program reads its arguments as a command and runs it.  What is printed goes
to the standard output, and what a failure says to the standard error, each
ended by a newline.
-/

namespace SymbolAnnotations

/-- What a run of the program leaves behind. -/
structure Outcome where
  exitCode : Int
  output : String := ""
  errors : String := ""
deriving DecidableEq, Repr

namespace Outcome

/-- The outcome of arguments that make no command. -/
def ofUsageError (error : UsageError) : Outcome :=
  if error.exitCode = 0 then { exitCode := 0, output := error.text }
  else { exitCode := error.exitCode, errors := error.text }

/-- The outcome of a command that was run. -/
def ofResult : Except CommandError String → Outcome
  | .ok text => { exitCode := 0, output := text }
  | .error error =>
    { exitCode := error.exitCode
      errors := if error.message.isEmpty then "" else error.message ++ "\n" }

end Outcome

/-- Runs the program. -/
def runProgram (view : FileView) (arguments : List String) : Outcome :=
  match Command.ofArguments arguments with
  | .error error => .ofUsageError error
  | .ok command => .ofResult (command.run view)

end SymbolAnnotations
