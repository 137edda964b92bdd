import BranchPolicy.Evaluation
import BranchPolicy.Workflow.Transcript
import BranchPolicy.Workflow.Inputs

/-!
# Running the validation

A run greets, lists the functions, evaluates the expression of its inputs on the branch name,
sets the output `valid-branch` to the verdict and reports. A negative outcome is an error if the
inputs ask for it, and otherwise a report on the console.

* `RunError` — how a run fails.
* `RunResult` — what a run that does not fail returns.
* `Validation.run` — a run.
-/

namespace BranchPolicy

/-- How a run fails. -/
inductive RunError where
  | input (e : InputError)
  | evaluation (e : EvaluationFailure)
  | invalidExpression (report : String)
  | invalidBranch (report : String)
  deriving DecidableEq, Repr

/-- The text of a failure. -/
def RunError.message : RunError → String
  | .input e => e.message
  | .evaluation e => e.message
  | .invalidExpression report => report
  | .invalidBranch report => report

/-- What a run returns. -/
structure RunResult where
  isValid : Bool
  message : String
  evaluation : Evaluation
  deriving DecidableEq, Repr

/-- The report of an expression with a fault. -/
def faultReport (fault : Fault) : String :=
  "Invalid Syntax\n\t" ++ fault.message

/-- The report of function results under a title. -/
def resultReport (title : String) (lines : List String) : String :=
  title ++ "\n\nFunction Results:\n\t" ++ "\n\t".intercalate lines

/-- A validation: the dialect of the expressions and the console of the reports. -/
structure Validation where
  console : Console := {}
  dialect : Dialect := Dialect.standard

namespace Validation

/-- Greets and lists the functions. -/
def greet (v : Validation) (t : Transcript) : Transcript :=
  let greeted := v.console.putLine "Welcome To The BranchValidator GitHub Action!!" t
  v.console.putGroup "Available Functions"
    (v.dialect.registry.descriptions.map String.ofList) (v.console.putBlank greeted)

/-- What is missing in the inputs, if anything; the branch name is asked for first. -/
def missingInput (i : RunInputs) : Option InputError :=
  if i.branchName.isEmpty then some .noBranchName
  else if i.validationLogic.isBlank then some .noValidationLogic
  else none

/-- Sets the output of a run. -/
def emitVerdict (v : Validation) (verdict : Bool) (t : Transcript) : Transcript :=
  v.console.emit "valid-branch" (if verdict then "true" else "false") t

/-- Writes a report after an empty line. -/
def writeReport (v : Validation) (report : String) (t : Transcript) : Transcript :=
  v.console.putLine report (v.console.putBlank t)

/-- The end of a run: the error if there is one and it is asked for, otherwise the report and the
result. -/
def finish (v : Validation) (error? : Option RunError) (result : RunResult) (t : Transcript) :
    Transcript × Except RunError RunResult :=
  match error? with
  | some e => (t, .error e)
  | none => (v.writeReport result.message t, .ok result)

/-- Reports an evaluation. -/
def report (v : Validation) (failWhenNotValid : Bool) (evaluation : Evaluation) (t : Transcript) :
    Transcript × Except RunError RunResult :=
  match evaluation with
  | .rejected fault =>
    let message := faultReport fault
    v.finish (if failWhenNotValid then some (.invalidExpression message) else none)
      ⟨false, message, evaluation⟩ t
  | .decided false _ =>
    let message := resultReport "Branch Invalid" (evaluation.failures.map (·.line))
    v.finish (if failWhenNotValid then some (.invalidBranch message) else none)
      ⟨false, message, evaluation⟩ t
  | .decided true _ =>
    v.finish none ⟨true, resultReport "Branch Valid" evaluation.lines, evaluation⟩ t

/-- **A run of the validation.** The transcript is what has been written before it, and what has
been written when it ends, also if it fails. -/
def run (v : Validation) (i : RunInputs) (t : Transcript) :
    Transcript × Except RunError RunResult :=
  let greeted := v.greet t
  match missingInput i with
  | some e => (greeted, .error (.input e))
  | none =>
    match v.dialect.evaluate (some i.validationLogic) (some i.validatedBranch) with
    | .error e => (greeted, .error (.evaluation e))
    | .ok evaluation =>
      v.report i.failWhenNotValid evaluation (v.emitVerdict evaluation.verdict greeted)

end Validation

end BranchPolicy
