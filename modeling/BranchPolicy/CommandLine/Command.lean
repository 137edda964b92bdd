import BranchPolicy.Text.Basic

/-!
# The commands

How the arguments of a command line are told apart is left to a parser. All that is relied on is
that it takes what follows a long option as the value of the option, and an argument that does not
start with a dash as it is.

* `UsageError` — what is wrong with a command line.
* `ValidateOptions` — the options of the command that validates a branch name.
* `Command`, `Invocation` — a command with its options and arguments, and how it is called.
* `CommandParser` — how command lines are read, and what is relied on of it.
-/

namespace BranchPolicy

/-- What is wrong with a command line. -/
inductive UsageError where
  | noSuchOption (option : Text)
  | missingValue (option : Text)
  | unexpectedValue (option : Text)
  | missingArgument
  | unexpectedArguments (arguments : List Text)
  | missingCommand
  | noSuchCommand (name : Text)
  | noSuchFile (path : Text)
  deriving DecidableEq, Repr

/-- The sentence that reports what is wrong with a command line. -/
def UsageError.message : UsageError → String
  | .noSuchOption option => "No such option: " ++ String.ofList option
  | .missingValue option => "Option '" ++ String.ofList option ++ "' requires an argument."
  | .unexpectedValue option => "Option '" ++ String.ofList option ++ "' does not take a value."
  | .missingArgument => "Missing argument."
  | .unexpectedArguments arguments =>
    "Got unexpected extra arguments: " ++ " ".intercalate (arguments.map String.ofList)
  | .missingCommand => "Missing command."
  | .noSuchCommand name => "No such command '" ++ String.ofList name ++ "'."
  | .noSuchFile path => "File '" ++ String.ofList path ++ "' does not exist."

/-- The options of the command that validates a branch name. -/
structure ValidateOptions where
  branchName : Option Text := none
  validationLogic : Option Text := none
  trimFromStart : Option Text := none
  failWhenNotValid : Option Bool := none
  config : Option Text := none
  deriving DecidableEq, Repr

/-- The options that give a branch name and an expression and nothing else. -/
def ValidateOptions.given (branchName validationLogic : Text) : ValidateOptions where
  branchName := some branchName
  validationLogic := some validationLogic

/-- A command: validate a branch name, check an expression, or list the functions. -/
inductive Command where
  | validate (options : ValidateOptions)
  | check (expression : Text)
  | functions (asJson : Bool)
  deriving DecidableEq, Repr

namespace Command

/-- The config file that a command reads. -/
def configFile? : Command → Option Text
  | .validate options => options.config
  | .check _ => none
  | .functions _ => none

end Command

/-- A command, and whether a log of it is asked for. -/
structure Invocation where
  verbose : Bool := false
  command : Command
  deriving DecidableEq, Repr

/-- **How command lines are read.** -/
structure CommandParser where
  parse : List Text → Except UsageError Invocation
  /-- An argument that does not start with a dash is the expression to check. -/
  parse_check : ∀ expression : Text, expression.head? ≠ some '-' →
    parse ["check".toList, expression] = .ok { command := .check expression }
  /-- What follows an option is its value. -/
  parse_validate : ∀ branch expression : Text,
    parse ["validate".toList, "--branch-name".toList, branch, "--validation-logic".toList,
        expression] = .ok { command := .validate (.given branch expression) }

end BranchPolicy
