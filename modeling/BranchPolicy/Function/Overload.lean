import BranchPolicy.Function.Signature

/-!
# Overloads of functions

A function has one or more overloads. Each has parameters, what the documentation says about it
and the predicate that answers for a branch name and the values of the arguments.

* `Category`, `Parameter`, `Predicate` — the parts.
* `Overload` — an overload.
* `Overload.signature`, `Overload.heading` — its two written forms.
-/

namespace BranchPolicy

/-- The groups of functions in the documentation. -/
inductive Category where
  | comparison
  | search
  | count
  | position
  | length
  | case
  deriving DecidableEq, Repr

namespace Category

/-- Every category, in the order of the documentation. -/
def all : List Category :=
  [.comparison, .search, .count, .position, .length, .case]

/-- The name of a category. -/
def name : Category → String
  | .comparison => "comparison"
  | .search => "search"
  | .count => "count"
  | .position => "position"
  | .length => "length"
  | .case => "case"

/-- The heading over the functions of a category. -/
def title : Category → String
  | .comparison => "Comparison"
  | .search => "Search"
  | .count => "Count"
  | .position => "Position"
  | .length => "Length"
  | .case => "Case"

end Category

/-- A parameter of a function. -/
structure Parameter where
  name : Text
  kind : Kind
  description : String := ""
  deriving DecidableEq, Repr

/-- The answer of a function for a branch name and the values of its arguments, or the text of the
failure that kept it from answering. -/
abbrev Predicate := Text → List Value → Except String Bool

/-- One overload of a function. -/
structure Overload where
  name : Text
  description : String := ""
  category : Category := .comparison
  parameters : List Parameter
  predicate : Predicate
  examples : List String := []

namespace Overload

/-- The name and the kinds of the parameters. -/
def signature (o : Overload) : Signature where
  name := o.name
  kinds := o.parameters.map (·.kind)

/-- The number of parameters. -/
def arity (o : Overload) : Nat :=
  o.parameters.length

/-- The overload as the documentation writes it, as in `equalTo(value: string): bool`. -/
def heading (o : Overload) : Text :=
  let parameters := o.parameters.map fun p => p.name ++ ": ".toList ++ p.kind.word
  o.name ++ '(' :: (", ".toList.intercalate parameters ++ "): bool".toList)

end Overload

end BranchPolicy
