import BranchPolicy.Character.Case.Upper
import BranchPolicy.Increasing
import BranchPolicy.Workflow.InputValue

/-!
# The inputs of a run

A run takes a branch name, a validation expression, a text to trim from the start of the name and
a flag. Each can come from an explicit value, from an environment variable or from a config file,
the first of these that gives it.

* `InputName` — the four inputs and how they are written.
* `InputError`, `ConfigError` — what is wrong with given inputs.
* `ConfigFile`, `ConfigReader` — what a config file holds, and a reader of such files.
* `RunInputs` — the inputs of a run.
* `RunInputs.ofMapping`, `RunInputs.ofEnvironment`, `RunInputs.ofFile` — from one source.
* `RunInputs.ofSources` — from all three.
* `RunInputs.validatedBranch` — the name that is validated.
-/

namespace BranchPolicy

/-! ## Names -/

/-- The inputs of a run. -/
inductive InputName where
  | branchName
  | validationLogic
  | trimFromStart
  | failWhenNotValid
  deriving DecidableEq, Repr

namespace InputName

/-- Every input, in the order in which messages list them. -/
def all : List InputName :=
  [.branchName, .validationLogic, .trimFromStart, .failWhenNotValid]

/-- How an input is written in a config file. -/
def text : InputName → Text
  | .branchName => "branch-name".toList
  | .validationLogic => "validation-logic".toList
  | .trimFromStart => "trim-from-start".toList
  | .failWhenNotValid => "fail-when-not-valid".toList

end InputName

/-- The environment variable of an input: its name in capital letters after `INPUT_`, with
underscores for spaces. -/
def variableName (input : Text) : Text :=
  "INPUT_".toList ++ Text.upper (input.map fun c => if c == ' ' then '_' else c)

/-- The value of each environment variable that is set. -/
abbrev Environment := Text → Option Text

/-! ## Errors -/

/-- What is wrong with the inputs of a run. -/
inductive InputError where
  | unknownInputs (names : List Text)
  | notFlag (input value : Text)
  | notMapping (file : Text)
  | noBranchName
  | noValidationLogic
  deriving DecidableEq, Repr

/-- The sentence that reports what is wrong with the inputs. -/
def InputError.message : InputError → String
  | .unknownInputs names =>
    "Unknown action input(s): " ++ ", ".intercalate (names.map String.ofList) ++
      ". Expected one of: " ++ ", ".intercalate (InputName.all.map (String.ofList ·.text)) ++ "."
  | .notFlag input value =>
    "The '" ++ String.ofList input ++ "' action input must be 'true' or 'false', got '" ++
      String.ofList value ++ "'."
  | .notMapping file =>
    "The config file '" ++ String.ofList file ++ "' must contain a mapping of action inputs."
  | .noBranchName => "The 'branch-name' action input cannot be null or empty."
  | .noValidationLogic => "The 'validation-logic' action input cannot be null or empty."

/-- Why inputs cannot be taken from their sources: they are wrong, an unknown key of a mapping is
not a text, a number is too long to be written, or the config file is malformed. -/
inductive ConfigError where
  | input (e : InputError)
  | keyNotText
  | overlong
  | malformed
  deriving DecidableEq, Repr

/-- The sentence that reports why inputs cannot be taken. -/
def ConfigError.message : ConfigError → String
  | .input e => e.message
  | .keyNotText => "A key of the config file is not a text."
  | .overlong => "A number among the inputs is too long to be written."
  | .malformed => "The config file is malformed."

/-! ## Mappings -/

/-- Keys with their values, in order. -/
abbrev InputMapping := List (InputValue × InputValue)

/-- What a config file holds: nothing, keys with values, or a value of another kind. -/
inductive ConfigFile where
  | empty
  | mapping (entries : InputMapping)
  | other
  deriving DecidableEq, Repr

/-- A reader of the contents of config files, `none` for a malformed one. -/
abbrev ConfigReader := Text → Option ConfigFile

/-- The value that a mapping gives an input, the last one if it gives several. -/
def InputMapping.value? (m : InputMapping) (input : InputName) : Option InputValue :=
  (m.reverse.find? (·.1 == .text input.text)).map (·.2)

/-- The keys of a mapping that name no input. -/
def InputMapping.unknownKeys (m : InputMapping) : List InputValue :=
  (m.map (·.1)).filter fun key => !InputName.all.any (key == .text ·.text)

/-- The text that a key is, if it is one. -/
def InputValue.text? : InputValue → Option Text
  | .text t => some t
  | _ => none

/-- The text of a value among the inputs. -/
def InputValue.written (v : InputValue) : Except ConfigError Text :=
  v.render.mapError fun .overlong => .overlong

/-- **The flag of an input with a given value**: a truth value stands for itself, and any other
value for the flag that its text is a word for. -/
def parseFlag (input : Text) : InputValue → Except ConfigError Bool
  | .flag b => .ok b
  | v => do
    let shown ← v.written
    match InputValue.flagOfWord? shown with
    | some b => return b
    | none => throw (.input (.notFlag input shown))

/-- The inputs of a run. -/
structure RunInputs where
  branchName : Text := []
  validationLogic : Text := []
  trimFromStart : Text := []
  failWhenNotValid : Bool := true
  deriving DecidableEq, Repr

namespace RunInputs

/-- The text of an input in a mapping, empty unless it is given. -/
def textOf (m : InputMapping) (input : InputName) : Except ConfigError Text :=
  match m.value? input with
  | some v => if v.isTruthy then v.written else .ok []
  | none => .ok []

/-- The flag of a mapping, set unless it is given. -/
def flagOf (m : InputMapping) : Except ConfigError Bool :=
  match m.value? .failWhenNotValid with
  | none => .ok true
  | some .null => .ok true
  | some v => parseFlag InputName.failWhenNotValid.text v

/-- **The inputs that a mapping gives.** Unknown keys are reported first, each once, in the order of
the code points of their characters. -/
def ofMapping (m : InputMapping) : Except ConfigError RunInputs :=
  match m.unknownKeys with
  | [] => do
    let branchName ← textOf m .branchName
    let validationLogic ← textOf m .validationLogic
    let trimFromStart ← textOf m .trimFromStart
    let failWhenNotValid ← flagOf m
    return ⟨branchName, validationLogic, trimFromStart, failWhenNotValid⟩
  | keys =>
    match keys.mapM InputValue.text? with
    | some names => .error (.input (.unknownInputs (increasing names)))
    | none => .error .keyNotText

/-- Inputs as a mapping. -/
def toMapping (i : RunInputs) : InputMapping :=
  [(.text InputName.branchName.text, .text i.branchName),
   (.text InputName.validationLogic.text, .text i.validationLogic),
   (.text InputName.trimFromStart.text, .text i.trimFromStart),
   (.text InputName.failWhenNotValid.text, .flag i.failWhenNotValid)]

/-! ## Sources -/

/-- What the environment gives: the variables of inputs that are set and not empty. -/
def environmentMapping (environment : Environment) : InputMapping :=
  InputName.all.filterMap fun input =>
    match environment (variableName input.text) with
    | none | some [] => none
    | some value => some (.text input.text, .text value)

/-- What explicit values give: those that are not null. -/
def overrideMapping (overrides : List (Text × InputValue)) : InputMapping :=
  overrides.filterMap fun (name, value) =>
    if value == .null then none else some (.text name, value)

/-- The inputs that the environment gives. -/
def ofEnvironment (environment : Environment) : Except ConfigError RunInputs :=
  ofMapping (environmentMapping environment)

/-- The inputs that a config file gives, by its path and contents. -/
def ofFile (read : ConfigReader) (path contents : Text) : Except ConfigError RunInputs :=
  match read contents with
  | none => .error .malformed
  | some .empty => ofMapping []
  | some (.mapping m) => ofMapping m
  | some .other => .error (.input (.notMapping path))

/-- **The inputs of a run from all sources.** Explicit values go before the environment, and the
environment before the config file, whose inputs must be right even where they are overridden. -/
def ofSources (read : ConfigReader) (overrides : List (Text × InputValue))
    (environment : Environment) (file : Option (Text × Text)) : Except ConfigError RunInputs := do
  let fromFile ← match file with
    | none => pure []
    | some (path, contents) => (ofFile read path contents).map (·.toMapping)
  ofMapping (fromFile ++ environmentMapping environment ++ overrideMapping overrides)

/-! ## Trimming -/

/-- **The branch name that is validated**: without the text to trim, if the name starts with it
in capital or small letters. As many characters are cut as the text has. -/
def validatedBranch (i : RunInputs) : Text :=
  if !i.trimFromStart.isEmpty && i.trimFromStart.lower.isPrefixOf i.branchName.lower then
    i.branchName.drop i.trimFromStart.length
  else i.branchName

end RunInputs

end BranchPolicy
