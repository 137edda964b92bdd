import BranchPolicy.Shape.Fault
import BranchPolicy.Text.Search

/-!
# The check of the connectives

Calls are joined by `&&` and `||`, each two characters long and none at an end of the expression.
The check trims the expression itself. It reads runs of the two marks wherever they stand, and it
asks for a connective between the end of one argument list and the start of the next.

* `connectiveRuns` — the longest runs of connective marks, in order.
* `listsSeparated` — whether a connective stands between argument lists.
* `connectivesFault` — the first thing wrong with the connectives, if any.
-/

namespace BranchPolicy

/-- Whether a character is one of the two connective marks. -/
def isConnectiveMark (c : Char) : Bool :=
  c == Connective.and.mark || c == Connective.or.mark

/-- The longest runs of connective marks in a text, in order. -/
def connectiveRuns : Text → List Text
  | [] => []
  | c :: cs =>
    if isConnectiveMark c then
      match cs.head?.any isConnectiveMark, connectiveRuns cs with
      | true, run :: runs => (c :: run) :: runs
      | _, runs => [c] :: runs
    else connectiveRuns cs

/-- What is wrong with one run of connective marks, if anything. -/
def runFault (run : Text) : Option ShapeFault :=
  if run == andOperator || run == orOperator then none
  else if run.all (· == Connective.or.mark) then some (.wrongLength .or)
  else if run.all (· == Connective.and.mark) then some (.wrongLength .and)
  else some (.mixedMarks run)

/-- Whether a text holds a two-character connective. -/
def hasConnective (t : Text) : Bool :=
  andOperator.occursIn t || orOperator.occursIn t

/-- Whether a connective stands between each `)` that closes a list and the next `(`. While a
list is open the next `)` closes it; after that the next `(` opens the following one. -/
def listsSeparated : (isOpen : Bool) → Text → Bool
  | _, [] => true
  | true, c :: cs =>
    if c == ')' then
      (!cs.contains '(' || hasConnective (cs.takeWhile (· != '('))) && listsSeparated false cs
    else listsSeparated true cs
  | false, c :: cs => listsSeparated (c == '(') cs

/-- Whether a text has at least two opening and two closing parentheses. -/
def hasManyLists (t : Text) : Bool :=
  2 ≤ t.count '(' && 2 ≤ t.count ')'

/-- Whether a connective mark stands at an end of a text. -/
def isAtEdge (connective : Connective) (t : Text) : Bool :=
  t.head? == some connective.mark || t.getLast? == some connective.mark

/-- The check of a trimmed expression. -/
def trimmedConnectivesFault (t : Text) : Option ShapeFault :=
  if !t.any isConnectiveMark then
    if hasManyLists t then some .missingConnective else none
  else if isAtEdge .and t then some (.connectiveAtEdge .and)
  else if isAtEdge .or t then some (.connectiveAtEdge .or)
  else if t.count Connective.or.mark % 2 ≠ 0 then some (.missingMark .or)
  else if t.count Connective.and.mark % 2 ≠ 0 then some (.missingMark .and)
  else
    match (connectiveRuns t).findSome? runFault with
    | some fault => some fault
    | none => if listsSeparated true t then none else some .missingConnective

/-- **The check of the connectives.** -/
def connectivesFault (t : Text) : Option ShapeFault :=
  trimmedConnectivesFault t.trim

end BranchPolicy
