import BranchPolicy.CommandLine.Options

/-!
# A parser of command lines

* `Command.parse` — the invocation that a command line is.
* `CommandParser.standard` — the parser with the options of the commands.
-/

namespace BranchPolicy

namespace Command

/-- The options before the command. -/
def globalOptions : List (CommandOption Bool) :=
  [⟨"--verbose".toList, some 'v', .switch fun _ => true⟩]

/-- The options of the command that validates. -/
def validateOptions : List (CommandOption ValidateOptions) :=
  [⟨"--branch-name".toList, some 'b', .setting fun t o => { o with branchName := some t }⟩,
   ⟨"--validation-logic".toList, some 'e',
    .setting fun t o => { o with validationLogic := some t }⟩,
   ⟨"--trim-from-start".toList, none, .setting fun t o => { o with trimFromStart := some t }⟩,
   ⟨"--fail-when-not-valid".toList, none,
    .switch fun o => { o with failWhenNotValid := some true }⟩,
   ⟨"--no-fail-when-not-valid".toList, none,
    .switch fun o => { o with failWhenNotValid := some false }⟩,
   ⟨"--config".toList, none, .setting fun t o => { o with config := some t }⟩]

/-- The options of the command that lists the functions. -/
def functionsOptions : List (CommandOption Bool) :=
  [⟨"--json".toList, none, .switch fun _ => true⟩]

/-- The command with the given name and the arguments after it. -/
def ofName (name : Text) (arguments : List Text) : Except UsageError Command :=
  if name == "validate".toList then do
    let (options, others) ← readOptions validateOptions true {} arguments
    if others.isEmpty then return .validate options
    else throw (.unexpectedArguments others)
  else if name == "check".toList then do
    let (_, others) ← readOptions ([] : List (CommandOption Unit)) true () arguments
    match others with
    | [] => throw .missingArgument
    | [expression] => return .check expression
    | _ :: others => throw (.unexpectedArguments others)
  else if name == "functions".toList then do
    let (asJson, others) ← readOptions functionsOptions true false arguments
    if others.isEmpty then return .functions asJson
    else throw (.unexpectedArguments others)
  else throw (.noSuchCommand name)

/-- **The invocation that a command line is.** -/
def parse (arguments : List Text) : Except UsageError Invocation := do
  let (verbose, rest) ← readOptions globalOptions false false arguments
  match rest with
  | [] => throw .missingCommand
  | name :: arguments => return ⟨verbose, ← ofName name arguments⟩

/-- An expression that does not start with a dash is no option. -/
theorem parse_check {expression : Text} (hdash : expression.head? ≠ some '-') :
    parse ["check".toList, expression] = .ok { command := .check expression } := by
  have hend : (expression == "--".toList) = false := by
    rw [beq_eq_false_iff_ne]
    rintro rfl
    exact hdash rfl
  have hoption : isOptionArgument expression = false := by
    simp [isOptionArgument, hdash]
  have hread : readOptions ([] : List (CommandOption Unit)) true () [expression]
      = .ok ((), [expression]) := by
    rw [readOptions, hend, hoption]
    rfl
  have hname : ofName "check".toList [expression] = .ok (.check expression) := by
    rw [ofName, if_neg (by decide), if_pos (by decide), hread]
    rfl
  have hparse : parse ["check".toList, expression]
      = (ofName "check".toList [expression]).map fun c => ⟨false, c⟩ := rfl
  rw [hparse, hname]
  rfl

end Command

/-- The parser with the options of the commands. -/
def CommandParser.standard : CommandParser where
  parse := Command.parse
  parse_check _ := Command.parse_check
  parse_validate _ _ := rfl

end BranchPolicy
