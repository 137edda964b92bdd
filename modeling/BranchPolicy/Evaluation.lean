import BranchPolicy.Function.Standard
import BranchPolicy.Resolution
import BranchPolicy.Shape.Check

/-!
# Evaluating expressions

An expression is checked, its calls are resolved and then dispatched on a branch name. Every call
is dispatched, also when the verdict no longer depends on it, so that the trace holds the answer
of each.

* `CallAnswer`, `Evaluation` — what an evaluation reports.
* `Dialect` — the functions an expression can call and the checks it must pass.
* `Dialect.fault?` — the fault of an expression, if it has one.
* `Dialect.evaluate` — the evaluation of an expression on a branch name.
-/

namespace BranchPolicy

/-! ## What an evaluation reports -/

/-- A dispatched call: the signature of its overload, the answer and the text of the call. -/
structure CallAnswer where
  signature : Signature
  answer : Bool
  call : Text
  deriving DecidableEq, Repr

/-- A dispatched call as a line of a report. -/
def CallAnswer.line (a : CallAnswer) : String :=
  String.ofList a.signature.render ++ " -> " ++ if a.answer then "true" else "false"

/-- The outcome of an evaluation: the expression has a fault, or there is a verdict with the
answers of all calls in order. -/
inductive Evaluation where
  | rejected (fault : Fault)
  | decided (verdict : Bool) (trace : List CallAnswer)
  deriving DecidableEq, Repr

namespace Evaluation

/-- The verdict; a rejected expression approves nothing. -/
def verdict : Evaluation → Bool
  | .rejected _ => false
  | .decided verdict _ => verdict

/-- The answers of the dispatched calls, in order. -/
def trace : Evaluation → List CallAnswer
  | .rejected _ => []
  | .decided _ trace => trace

/-- The fault of a rejected expression. -/
def fault? : Evaluation → Option Fault
  | .rejected fault => some fault
  | .decided _ _ => none

/-- The negative answers, in order. -/
def failures (e : Evaluation) : List CallAnswer :=
  e.trace.filter (!·.answer)

/-- The trace, one line per call. -/
def lines (e : Evaluation) : List String :=
  e.trace.map (·.line)

end Evaluation

/-- Why an evaluation ends without an outcome: a number is too long to be read, or the predicate
of a function fails. -/
inductive EvaluationFailure where
  | overlong
  | predicate (function : Text) (reason : String)
  deriving DecidableEq, Repr

/-- The sentence that reports why an evaluation ended. -/
def EvaluationFailure.message : EvaluationFailure → String
  | .overlong => "A number has too many digits."
  | .predicate function reason => "Error calling " ++ String.ofList function ++ ": " ++ reason

/-! ## Planning

A plan holds the resolved calls of an expression, clause by clause. It exists only for an
expression without a fault, so that no predicate is asked about an expression that has one. -/

/-- The functions that an expression can call and the checks of its shape, in order. -/
structure Dialect where
  registry : Registry
  checks : List ShapeCheck := ShapeCheck.standard

/-- A call with its resolution. -/
structure ResolvedCall where
  call : Call
  resolution : Resolution

namespace Dialect

/-- The dialect of the standard functions and checks. -/
def standard : Dialect where
  registry := Registry.standard

/-- The fault in the shape of an expression; no expression counts as the empty one. -/
def shapeFault? (d : Dialect) (expression : Option Text) : Option ShapeFault :=
  firstShapeFault d.checks (expression.getD [])

/-- A call resolved in the registry. -/
def resolveCall (d : Dialect) (call : Call) : Except Refusal ResolvedCall :=
  (d.registry.resolve call).map fun resolution => ⟨call, resolution⟩

/-- The resolved calls of some clauses, or the first call that does not resolve. -/
def resolveClauses (d : Dialect) (clauses : List Clause) :
    Except Refusal (List (List ResolvedCall)) :=
  clauses.mapM fun clause => clause.calls.mapM d.resolveCall

/-- **The plan of an expression**, or the first thing that stands in its way: a fault in the shape,
or else a call that does not resolve. -/
def plan (d : Dialect) (expression : Option Text) : Except Refusal (List (List ResolvedCall)) :=
  match d.shapeFault? expression with
  | some fault => .error (.fault (.shape fault))
  | none => d.resolveClauses (Expression.clauses (expression.getD []))

/-- **The fault of an expression**, if it has one. -/
def fault? (d : Dialect) (expression : Option Text) : Except OverlongNumber (Option Fault) :=
  match d.plan expression with
  | .ok _ => .ok none
  | .error (.fault fault) => .ok (some fault)
  | .error .overlong => .error .overlong

/-! ## Dispatching -/

/-- The answer of a resolved call on a branch name. -/
def dispatch (branch : Text) (c : ResolvedCall) : Except EvaluationFailure CallAnswer :=
  match c.resolution.overload.predicate branch c.resolution.values with
  | .ok answer => .ok ⟨c.resolution.overload.signature, answer, c.call.render⟩
  | .error reason => .error (.predicate c.call.name reason)

/-- The outcome of a plan on a branch name: positive if every call of some clause answers
positively. -/
def follow (plan : List (List ResolvedCall)) (branch : Text) :
    Except EvaluationFailure Evaluation := do
  let answers ← plan.mapM fun calls => calls.mapM (dispatch branch)
  return .decided (answers.any (·.all (·.answer))) answers.flatten

/-- **Evaluates an expression on a branch name.** No branch name counts as the empty one. -/
def evaluate (d : Dialect) (expression branch : Option Text) :
    Except EvaluationFailure Evaluation :=
  match d.plan expression with
  | .error (.fault fault) => .ok (.rejected fault)
  | .error .overlong => .error .overlong
  | .ok plan => follow plan (branch.getD [])

end Dialect

/-- The verdict of the standard dialect on a branch name. -/
def approves (expression branch : Option Text) : Except EvaluationFailure Bool :=
  (Dialect.standard.evaluate expression branch).map (·.verdict)

end BranchPolicy
