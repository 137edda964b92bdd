import BranchPolicy.Expression.Clause

/-!
# Faults in the shape of an expression

What the checks of this folder can find wrong with the shape of an expression, before any
function is looked up.

* `Connective`, `Parenthesis`, `Quote` — the marks that a fault can name.
* `ShapeFault` — the faults, one constructor per cause.
* `ShapeFault.message` — the sentence that reports a fault.
-/

namespace BranchPolicy

/-- The two ways of joining calls. -/
inductive Connective where
  | and
  | or
  deriving DecidableEq, Repr

/-- The character that a connective is written with, twice. -/
def Connective.mark : Connective → Char
  | .and => '&'
  | .or => '|'

/-- The two parentheses. -/
inductive Parenthesis where
  | opening
  | closing
  deriving DecidableEq, Repr

/-- The character of a parenthesis. -/
def Parenthesis.mark : Parenthesis → Char
  | .opening => '('
  | .closing => ')'

/-- The two quote styles. -/
inductive Quote where
  | single
  | double
  deriving DecidableEq, Repr

/-- The quote character of a style. -/
def Quote.mark : Quote → Char
  | .single => Text.singleQuote
  | .double => Text.doubleQuote

/-- What is wrong with the shape of an expression. The last cause is for checks beyond those of this
folder, which bring their own sentence. -/
inductive ShapeFault where
  | noFunction
  | startsWithParenthesis
  | endsWithOpening
  | missingParenthesis (missing : Parenthesis)
  | startsWithClosing
  | mixedQuotes
  | missingQuote (style : Quote)
  | quoteOutsideArguments
  | connectiveAtEdge (connective : Connective)
  | missingMark (connective : Connective)
  | wrongLength (connective : Connective)
  | mixedMarks (run : Text)
  | missingConnective
  | negativeNumber
  | other (sentence : String)
  deriving DecidableEq, Repr

namespace ShapeFault

/-- The sentence that reports a fault. -/
def message : ShapeFault → String
  | .noFunction => "The expression must have at least one function."
  | .startsWithParenthesis => "The expression cannot start with a '(' or ')' parenthesis."
  | .endsWithOpening => "The expression cannot end with a '('."
  | .missingParenthesis .opening => "The expression is missing a '('."
  | .missingParenthesis .closing => "The expression is missing a ')'."
  | .startsWithClosing => "A function parameter list cannot start with a ')'."
  | .mixedQuotes => "Cannot use both single and double quotes in an expression."
  | .missingQuote .single => "Expression missing a single quote."
  | .missingQuote .double => "Expression missing a double quote."
  | .quoteOutsideArguments =>
    "Single and double quotes must only exist inside of a function argument list."
  | .connectiveAtEdge .and =>
    "Cannot start or end an expression with an '&&' operator or '&' character."
  | .connectiveAtEdge .or =>
    "Cannot start or end an expression with an '||' operator or '|' character."
  | .missingMark .and => "Expression is missing an '&' operator."
  | .missingMark .or => "Expression is missing an '|' operator."
  | .wrongLength .and => "AND operators must be 2 consecutive '&' symbols."
  | .wrongLength .or => "OR operators must be 2 consecutive '|' symbols."
  | .mixedMarks run =>
    "Operators must be either '&&' or '||'. Found '" ++ String.ofList run ++ "'."
  | .missingConnective => "Expression functions must be separated by '&&' or '||' operators."
  | .negativeNumber => "Negative number argument values are not allowed."
  | .other sentence => sentence

end ShapeFault

end BranchPolicy
