import BranchPolicy.Function.Overload
import BranchPolicy.Function.Grouping

/-!
# The registry of functions

A registry holds the overloads of every function that expressions can call. It is built from
declarations, which may lack what an overload must have; the first defect stops the building.

* `Declaration` — an overload as declared.
* `RegistrationError` — the defects, with their messages.
* `Declaration.define` — the overload that a declaration makes, if it lacks nothing.
* `Registry.build` — the registry of a list of declarations.
* `Registry.overloads`, `Registry.names`, `Registry.all`, … — the look-ups.
-/

namespace BranchPolicy

/-! ## Declarations -/

/-- A parameter as declared. -/
structure ParameterDeclaration where
  name : Option Text
  kind : Option Kind
  description : String := ""

/-- An overload as declared. -/
structure Declaration where
  name : Option Text
  description : String := ""
  category : Category := .comparison
  parameters : List ParameterDeclaration := []
  predicate : Option Predicate
  examples : List String := []

/-- What keeps declarations from making a registry. -/
inductive RegistrationError where
  | emptyName
  | noPredicate (function : Text)
  | noKind (position : Nat) (function : Text)
  | noParameterName (position : Nat) (function : Text)
  | duplicateOverload (signature : Signature)
  deriving DecidableEq, Repr

/-- The sentence that reports a defect. -/
def RegistrationError.message : RegistrationError → String
  | .emptyName => "Function names cannot be empty."
  | .noPredicate function =>
    "Function '" ++ String.ofList function ++ "' has no implementation."
  | .noKind position function =>
    "Parameter '" ++ toString position ++ "' of function '" ++ String.ofList function ++
      "' is missing a data type."
  | .noParameterName position function =>
    "Parameter '" ++ toString position ++ "' of function '" ++ String.ofList function ++
      "' is missing a name."
  | .duplicateOverload signature =>
    "Function '" ++ String.ofList signature.name ++ "' has a duplicate overload '" ++
      String.ofList signature.render ++ "'."

/-- The parameters that declarations make, the first of them at `position`. The kind is asked for
before the name. -/
def defineParameters (function : Text) :
    (position : Nat) → List ParameterDeclaration → Except RegistrationError (List Parameter)
  | _, [] => .ok []
  | position, p :: ps =>
    match p.kind, p.name.getD [] with
    | none, _ => .error (.noKind position function)
    | some _, [] => .error (.noParameterName position function)
    | some kind, name => do
      let rest ← defineParameters function (position + 1) ps
      return ⟨name, kind, p.description⟩ :: rest

/-- **The overload that a declaration makes.** A name, a predicate and the parameters are asked
for in this order. -/
def Declaration.define (d : Declaration) : Except RegistrationError Overload :=
  let name := d.name.getD []
  if name.isBlank then .error .emptyName
  else
    match d.predicate with
    | none => .error (.noPredicate name)
    | some predicate => do
      let parameters ← defineParameters name 1 d.parameters
      return ⟨name, d.description, d.category, parameters, predicate, d.examples⟩

/-! ## Building -/

/-- The overloads of every function, the functions in order of first appearance. -/
structure Registry where
  functions : Grouping Text Overload

/-- No such parameter is there to have a kind. -/
structure MissingParameter where
  function : Text
  position : Int
  deriving DecidableEq, Repr

/-- The sentence that reports a missing parameter. -/
def MissingParameter.message (e : MissingParameter) : String :=
  "The function '" ++ String.ofList e.function ++ "' has no parameter at position '" ++
    toString e.position ++ "'."

namespace Registry

/-- The registry without functions. -/
def empty : Registry where
  functions := []

/-- The overloads of a function in order of registration, none for an unknown name. -/
def overloads (r : Registry) (name : Text) : List Overload :=
  Grouping.get name r.functions

/-- Registers one more overload; a function cannot have two of the same signature. -/
def register (r : Registry) (o : Overload) : Except RegistrationError Registry :=
  if (r.overloads o.name).any (·.signature == o.signature) then
    .error (.duplicateOverload o.signature)
  else .ok ⟨Grouping.add o.name o r.functions⟩

/-- A registered overload comes last among the overloads of its name and changes no other name. -/
theorem overloads_of_register {r r' : Registry} {o : Overload} (h : r.register o = .ok r')
    (name : Text) :
    r'.overloads name = if o.name = name then r.overloads name ++ [o] else r.overloads name := by
  unfold register at h
  split at h
  · simp at h
  · cases h
    exact Grouping.get_add o.name name o r.functions

/-- Registers a declared overload. -/
def declare (r : Registry) (d : Declaration) : Except RegistrationError Registry := do
  r.register (← d.define)

/-- **The registry of a list of declarations**, or the first defect in it. -/
def build (declarations : List Declaration) : Except RegistrationError Registry :=
  declarations.foldlM declare empty

/-! ## Look-ups -/

/-- The names of the functions, in order of first appearance. -/
def names (r : Registry) : List Text :=
  Grouping.keys r.functions

/-- Every overload, function by function. -/
def all (r : Registry) : List Overload :=
  Grouping.items r.functions

/-- The number of functions. -/
def size (r : Registry) : Nat :=
  r.functions.length

/-- Whether a function is registered. -/
def contains (r : Registry) (name : Text) : Bool :=
  r.names.contains name

/-- The number of parameters of the first overload of a function, 0 for an unknown name. -/
def parameterCount (r : Registry) (name : Text) : Nat :=
  ((r.overloads name).head?.map (·.arity)).getD 0

/-- The parameter of an overload at a position counted from 1. -/
def parameterAt? (position : Int) (o : Overload) : Option Parameter :=
  if 1 ≤ position then o.parameters[(position - 1).toNat]? else none

/-- The kind of the parameter at a position counted from 1, in the first overload that has one
there. -/
def parameterKind (r : Registry) (name : Text) (position : Int) : Except MissingParameter Kind :=
  match (r.overloads name).findSome? (parameterAt? position) with
  | some p => .ok p.kind
  | none => .error ⟨name, position⟩

/-- The overloads of a category, in the order of `all`. -/
def inCategory (r : Registry) (category : Category) : List Overload :=
  r.all.filter (·.category == category)

/-- Every overload as the documentation writes it. -/
def descriptions (r : Registry) : List Text :=
  r.all.map (·.heading)

end Registry

end BranchPolicy
