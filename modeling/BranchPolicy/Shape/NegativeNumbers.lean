import BranchPolicy.Expression.Span
import BranchPolicy.Shape.Fault

/-!
# The check for negative numbers

No argument that is written without quotes may hold a minus sign. The check reads every
outermost argument list of the expression.

* `isNegative` — whether an argument breaks the rule.
* `negativeNumbersFault` — the fault if some argument does.
-/

namespace BranchPolicy

/-- Whether a trimmed argument does not start with a quote and holds a minus sign. -/
def isNegative (argument : Text) : Bool :=
  !argument.head?.any Text.isQuote && argument.contains '-'

/-- Whether some argument of an argument list is negative. -/
def hasNegative (argumentList : Text) : Bool :=
  (Call.argumentTexts argumentList).any isNegative

/-- **The check for negative numbers.** -/
def negativeNumbersFault (t : Text) : Option ShapeFault :=
  if (Expression.outermostSpans t).any fun s => hasNegative (s.inside t) then
    some .negativeNumber
  else none

end BranchPolicy
