import BranchPolicy.CommandLine.Command
import BranchPolicy.Function.Documentation
import BranchPolicy.Workflow.Run

/-!
# Running a command line

A command line either is used wrongly, or it writes a transcript and ends with an exit status, 0 if
all is well and 1 if not. An error that is not the user's ends it without a status. The log that can
be asked for is no part of the transcript.

* `Host` — what a command finds around it: variables, files, streams and an output file.
* `Ending` — how a command ends.
* `Command.run` — a command in a host.
* `CommandLine.run` — a command line in a host.
-/

namespace BranchPolicy

/-- What a command finds around it. -/
structure Host where
  environment : Environment := fun _ => none
  file? : Text → Option Text := fun _ => none
  readConfig : ConfigReader := fun _ => none
  hasOutputFile : Bool := false
  out : Display := {}
  err : Display := {}

namespace Host

/-- The console that a validation writes to. -/
def console (host : Host) : Console where
  hasOutputFile := host.hasOutputFile
  display := host.out

end Host

/-- An error that ends a command without a status. -/
inductive Failure where
  | config (e : ConfigError)
  | evaluation (e : EvaluationFailure)
  deriving DecidableEq, Repr

/-- The sentence that reports a failure. -/
def Failure.message : Failure → String
  | .config e => e.message
  | .evaluation e => e.message

/-- How a command ends. -/
inductive Ending where
  | exit (status : Nat)
  | failed (e : Failure)
  deriving DecidableEq, Repr

/-- A command ends with status 1 and a message in red on the standard error. -/
def endWithMessage (host : Host) (message : String) (t : Transcript) : Transcript × Ending :=
  (t.writeErr (host.err.styled .red message.toList), .exit 1)

namespace ValidateOptions

/-- The explicit values of the inputs. -/
def overrides (o : ValidateOptions) : List (Text × InputValue) :=
  let ofText (t : Option Text) : InputValue := (t.map .text).getD .null
  [(InputName.branchName.text, ofText o.branchName),
   (InputName.validationLogic.text, ofText o.validationLogic),
   (InputName.trimFromStart.text, ofText o.trimFromStart),
   (InputName.failWhenNotValid.text, (o.failWhenNotValid.map .flag).getD .null)]

/-- The inputs of a run from the options, the environment and a config file. -/
def inputs (o : ValidateOptions) (host : Host) (file : Option (Text × Text)) :
    Except ConfigError RunInputs :=
  RunInputs.ofSources host.readConfig o.overrides host.environment file

end ValidateOptions

namespace Command

/-- The end of a validation that has run. -/
def endOfRun (host : Host) : Transcript × Except RunError RunResult → Transcript × Ending
  | (t, .ok _) => (t, .exit 0)
  | (t, .error (.evaluation e)) => (t, .failed (.evaluation e))
  | (t, .error e) => endWithMessage host e.message t

/-- Validates a branch name. -/
def runValidate (o : ValidateOptions) (host : Host) (file : Option (Text × Text)) :
    Transcript × Ending :=
  match o.inputs host file with
  | .error (.input e) => endWithMessage host e.message {}
  | .error e => ({}, .failed (.config e))
  | .ok inputs =>
    let validation : Validation := { console := host.console }
    endOfRun host (validation.run inputs {})

/-- Checks an expression without a branch name. -/
def runCheck (expression : Text) (host : Host) : Transcript × Ending :=
  match Dialect.standard.fault? (some expression) with
  | .error .overlong => ({}, .failed (.evaluation .overlong))
  | .ok (some fault) => endWithMessage host (faultReport fault) {}
  | .ok none =>
    (Transcript.writeOut {} (host.out.styled .green "Expression is valid.".toList), .exit 0)

/-- The listing of the functions of a category, empty if it has none. -/
def categoryLines (d : Display) (r : Registry) (category : Category) : List Text :=
  match r.inCategory category with
  | [] => []
  | overloads =>
    d.styled .bold category.title.toList :: overloads.flatMap fun o =>
      [d.shown ("  ".toList ++ o.heading), d.shown ("      ".toList ++ o.description.toList)]

/-- The listing of all functions, as lines or as one document. -/
def functionLines (d : Display) (r : Registry) (asJson : Bool) : List Text :=
  if asJson then [d.shown (r.documentation.toJson.render 0)]
  else Category.all.flatMap (categoryLines d r)

/-- Lists the functions. -/
def runFunctions (asJson : Bool) (host : Host) : Transcript × Ending :=
  ((functionLines host.out Registry.standard asJson).foldl Transcript.writeOut {}, .exit 0)

/-- **Runs a command**, given the config file it reads with its contents. -/
def run (c : Command) (host : Host) (file : Option (Text × Text)) : Transcript × Ending :=
  match c with
  | .validate options => runValidate options host file
  | .check expression => runCheck expression host
  | .functions asJson => runFunctions asJson host

end Command

/-- **Runs a command line.** A config file that does not exist is a usage error. -/
def CommandLine.run (parser : CommandParser) (arguments : List Text) (host : Host) :
    Except UsageError (Transcript × Ending) := do
  let invocation ← parser.parse arguments
  let command := invocation.command
  match command.configFile? with
  | none => return command.run host none
  | some path =>
    match host.file? path with
    | none => throw (.noSuchFile path)
    | some contents => return command.run host (some (path, contents))

end BranchPolicy
