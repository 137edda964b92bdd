import BranchPolicy.CommandLine.Command

/-!
# Options on the command line

An option has words, written in full after two dashes, and may have a letter after one dash.
Letters can be run together, the last of them taking the rest of the argument, or the next
argument, as its value. A word takes its value after an equals sign or from the next argument.
Two dashes alone end the options.

* `CommandOption` — an option and what it does to the settings.
* `readOptions` — the settings and the other arguments of a command line.
-/

namespace BranchPolicy

/-- What an option does to the settings: a switch changes them, and a setting takes a value. -/
inductive OptionEffect (σ : Type) where
  | switch (change : σ → σ)
  | setting (change : Text → σ → σ)

/-- An option of a command with settings of type `σ`. -/
structure CommandOption (σ : Type) where
  word : Text
  letter : Option Char := none
  effect : OptionEffect σ

/-- What has been read of one argument: all of it, or an option that still needs its value. -/
inductive OptionReading (σ : Type) where
  | complete (settings : σ)
  | awaiting (option : Text) (settings : Text → σ)

/-- Reads the letters of an argument after its dash. -/
def readLetters {σ : Type} (options : List (CommandOption σ)) :
    σ → Text → Except UsageError (OptionReading σ)
  | settings, [] => .ok (.complete settings)
  | settings, c :: cs =>
    match options.find? (·.letter == some c) with
    | none => .error (.noSuchOption ['-', c])
    | some o =>
      match o.effect with
      | .switch change => readLetters options (change settings) cs
      | .setting change =>
        if cs.isEmpty then .ok (.awaiting ['-', c] (change · settings))
        else .ok (.complete (change cs settings))

/-- Reads an argument that starts with a dash. It is read as a word if it is one, before or
without an equals sign, and otherwise as letters unless it starts with two dashes. -/
def readOption {σ : Type} (options : List (CommandOption σ)) (settings : σ) (argument : Text) :
    Except UsageError (OptionReading σ) :=
  let word := argument.takeWhile (· != '=')
  match options.find? (·.word == word) with
  | some o =>
    match o.effect, argument.drop word.length with
    | .switch change, [] => .ok (.complete (change settings))
    | .switch _, _ :: _ => .error (.unexpectedValue word)
    | .setting change, [] => .ok (.awaiting word (change · settings))
    | .setting change, _ :: value => .ok (.complete (change value settings))
  | none =>
    if "--".toList.isPrefixOf argument then .error (.noSuchOption word)
    else readLetters options settings argument.tail

/-- Whether an argument is read as an option: a dash with something after it. -/
def isOptionArgument (argument : Text) : Bool :=
  argument.head? == some '-' && argument.length ≠ 1

/-- **Reads a command line**: the settings after all options and the other arguments in order.
Unless options may stand between them, the first other argument ends the options. -/
def readOptions {σ : Type} (options : List (CommandOption σ)) (interspersed : Bool) :
    σ → List Text → Except UsageError (σ × List Text)
  | settings, [] => .ok (settings, [])
  | settings, argument :: rest =>
    if argument == "--".toList then .ok (settings, rest)
    else if isOptionArgument argument then
      match readOption options settings argument with
      | .error e => .error e
      | .ok (.complete settings) => readOptions options interspersed settings rest
      | .ok (.awaiting option settings) =>
        match rest with
        | [] => .error (.missingValue option)
        | value :: rest => readOptions options interspersed (settings value) rest
    else if interspersed then do
      let (settings, others) ← readOptions options interspersed settings rest
      return (settings, argument :: others)
    else .ok (settings, argument :: rest)

end BranchPolicy
