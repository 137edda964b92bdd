import BranchPolicy.Shape.Connectives
import BranchPolicy.Shape.NegativeNumbers
import BranchPolicy.Shape.Parentheses
import BranchPolicy.Shape.Quotes

/-!
# Checking the shape of an expression

* `ShapeCheck` — a check of one aspect of the shape.
* `ShapeCheck.standard` — the four checks, in the order in which they run.
* `firstShapeFault` — what the first failing check finds in a trimmed expression.
-/

namespace BranchPolicy

/-- A check of the shape of an expression; it returns the fault it finds. -/
abbrev ShapeCheck := Text → Option ShapeFault

/-- The parentheses, the quotes, the connectives and the negative numbers, in this order: each
check relies on those before it. -/
def ShapeCheck.standard : List ShapeCheck :=
  [parenthesesFault, quotesFault, connectivesFault, negativeNumbersFault]

/-- **The fault that the first failing check finds** in the trimmed expression, `none` if all
checks pass. -/
def firstShapeFault (checks : List ShapeCheck) (expression : Text) : Option ShapeFault :=
  checks.findSome? (· expression.trim)

end BranchPolicy
