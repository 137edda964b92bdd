import BranchPolicy.Expression.Argument

/-!
# Signatures

A signature is a name with the kinds of the parameters, and tells the overloads of a function
apart.

* `Signature` — the name and the kinds.
* `Signature.render` — as in `isSectionNum(number, string)`.
* `Signature.accepts` — whether the kinds are those of given arguments.
-/

namespace BranchPolicy

/-- A function name with the kinds of its parameters, in order. -/
structure Signature where
  name : Text
  kinds : List Kind := []
  deriving DecidableEq, Repr

namespace Signature

/-- The number of parameters. -/
def arity (s : Signature) : Nat :=
  s.kinds.length

/-- A signature as text. -/
def render (s : Signature) : Text :=
  s.name ++ '(' :: (", ".toList.intercalate (s.kinds.map (·.word)) ++ [')'])

/-- Whether the parameters have exactly the given kinds. -/
def accepts (s : Signature) (kinds : List Kind) : Bool :=
  s.kinds == kinds

end Signature

end BranchPolicy
