import BranchPolicy.Increasing
import BranchPolicy.Function.Registry
import BranchPolicy.Shape.Fault

/-!
# Resolving calls

A call resolves to the first overload of its function whose parameters its arguments fit. The
values that the arguments denote are read on the way.

* `CallFault` — why a call does not resolve, with the messages.
* `Fault` — what is wrong with an expression: its shape, or one of its calls.
* `Refusal` — a fault, or a number too long to be read.
* `Resolution` — an overload with the values of the arguments.
* `Registry.resolve` — the resolution of a call.
-/

namespace BranchPolicy

/-! ## Faults of calls -/

/-- Why a call does not resolve. -/
inductive CallFault where
  | notUsable (call : Text)
  | missingArgument (function : Text)
  | argumentCount (function : Text) (actual : Nat) (expected : List Nat)
  | argumentKind (position : Nat) (function : Text)
  deriving DecidableEq, Repr

/-- The sentence that reports why a call does not resolve. -/
def CallFault.message : CallFault → String
  | .notUsable call =>
    "The expression function '" ++ String.ofList call ++ "' is not a usable function."
  | .missingArgument function =>
    "The expression function '" ++ String.ofList function ++ "' is missing an argument."
  | .argumentCount function actual expected =>
    "Incorrect number of function arguments. The function '" ++ String.ofList function ++
      "' has '" ++ toString actual ++ "' argument(s) but is expecting '" ++
      " or ".intercalate (expected.map toString) ++ "'."
  | .argumentKind position function =>
    "The value at argument position '" ++ toString position ++ "' for the expression function '" ++
      String.ofList function ++ "' has an incorrect data type."

/-- What is wrong with an expression. -/
inductive Fault where
  | shape (fault : ShapeFault)
  | call (fault : CallFault)
  deriving DecidableEq, Repr

/-- The sentence that reports what is wrong with an expression. -/
def Fault.message : Fault → String
  | .shape fault => fault.message
  | .call fault => fault.message

/-- Why an expression is not evaluated: it has a fault, or a number in it is too long to be read,
which is no fault to report but an error. -/
inductive Refusal where
  | fault (fault : Fault)
  | overlong
  deriving DecidableEq, Repr

/-! ## Fitting arguments to parameters -/

/-- How arguments fit parameters: they have values, or one does not fit. -/
inductive Fit where
  | values (values : List Value)
  | mismatch (position : Nat)
  deriving DecidableEq, Repr

/-- Puts a value in front of the values of a fit. -/
def Fit.push (v : Value) : Fit → Fit
  | .values vs => .values (v :: vs)
  | .mismatch position => .mismatch position

/-- Fits arguments to parameters one by one, the first pair being at `position`. An argument of
another kind, or one without a value, does not fit; the arguments after it are not read. -/
def fit : (position : Nat) → List Argument → List Parameter → Except OverlongNumber Fit
  | position, a :: as, p :: ps =>
    if a.kind = p.kind then
      match a.value with
      | .error e => .error e
      | .ok none => .ok (.mismatch position)
      | .ok (some v) => (fit (position + 1) as ps).map (·.push v)
    else .ok (.mismatch position)
  | _, _, _ => .ok (.values [])

/-! ## Choosing an overload -/

/-- The overload that a call stands for, with the values of the arguments. -/
structure Resolution where
  overload : Overload
  values : List Value

/-- The first of some overloads that the arguments fit. If there is none, the fault names the
largest position at which an overload failed to fit, `closest` being the largest so far. -/
def chooseOverload (function : Text) (arguments : List Argument) :
    (closest : Nat) → List Overload → Except Refusal Resolution
  | closest, [] => .error (.fault (.call (.argumentKind closest function)))
  | closest, o :: os =>
    match fit 1 arguments o.parameters with
    | .error .overlong => .error .overlong
    | .ok (.values values) => .ok ⟨o, values⟩
    | .ok (.mismatch position) => chooseOverload function arguments (max closest position) os

/-- The distinct arities of some overloads, in increasing order. -/
def arities (overloads : List Overload) : List Nat :=
  increasing (overloads.map (·.arity))

/-- The fault of a call whose number of arguments no overload takes. -/
def arityFault (function : Text) (actual : Nat) (expected : List Nat) : CallFault :=
  if expected.all (actual < ·) then .missingArgument function
  else .argumentCount function actual expected

/-- Whether a text has an opening parenthesis and ends with a closing one. -/
def endsInList (t : Text) : Bool :=
  t.contains '(' && t.getLast? == some ')'

/-- **Resolves a call.** The form of the call, its name, the number of its arguments and then the
arguments themselves are looked at in this order. -/
def Registry.resolve (r : Registry) (call : Call) : Except Refusal Resolution :=
  if !endsInList call.render then .error (.fault (.call (.notUsable call.render)))
  else
    match r.overloads call.name with
    | [] => .error (.fault (.call (.notUsable call.name)))
    | overloads =>
      match overloads.filter (·.arity == call.arguments.length) with
      | [] =>
        .error (.fault (.call (arityFault call.name call.arguments.length (arities overloads))))
      | candidates => chooseOverload call.name call.arguments 0 candidates

end BranchPolicy
