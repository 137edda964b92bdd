import BranchPolicy.Shape.Fault

/-!
# The check of the parentheses

An expression needs an argument list, so it has parentheses, as many opening as closing ones, and
the first of them opens. Quotes play no part here: a parenthesis inside a string counts too.

* `parenthesesFault` — the first thing wrong with the parentheses, if any.
-/

namespace BranchPolicy

/-- Whether a character is a parenthesis. -/
def isParenthesis (c : Char) : Bool :=
  c == '(' || c == ')'

/-- **The check of the parentheses.** -/
def parenthesesFault (t : Text) : Option ShapeFault :=
  if !t.any isParenthesis then some .noFunction
  else if t.head?.any isParenthesis then some .startsWithParenthesis
  else if t.getLast? == some '(' then some .endsWithOpening
  else if t.count '(' < t.count ')' then some (.missingParenthesis .opening)
  else if t.count ')' < t.count '(' then some (.missingParenthesis .closing)
  else if t.find? isParenthesis == some ')' then some .startsWithClosing
  else none

end BranchPolicy
