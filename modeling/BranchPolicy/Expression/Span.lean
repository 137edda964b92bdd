import BranchPolicy.Text.Quoted

/-!
# Argument-list spans

The outermost argument lists of an expression, found by counting parentheses outside quotes. A
closing parenthesis with no list open is passed over, and a list that is never closed has no span.

* `Span` — the two indexes of an argument list.
* `Expression.outermostSpans` — the spans of an expression, in order.
* `Span.inside` — the text between the two indexes.
-/

namespace BranchPolicy

/-- The index of an opening parenthesis and that of the closing one that matches it. -/
structure Span where
  opening : Nat
  closing : Nat
  deriving DecidableEq, Repr

/-- The characters of a text strictly between the two indexes of a span. -/
def Span.inside (s : Span) (t : Text) : Text :=
  (t.drop (s.opening + 1)).take (s.closing - (s.opening + 1))

namespace Expression

/-- The spans closed in the rest of an expression, read from index `i` on with the quote `q` open
and `depth` lists open, the outermost of which opened at index `start`. -/
def spansFrom : (q : Option Char) → (depth start i : Nat) → Text → List Span
  | _, _, _, _, [] => []
  | q, depth, start, i, c :: cs =>
    if q.isNone && c == '(' then
      spansFrom q (depth + 1) (if depth == 0 then i else start) (i + 1) cs
    else if q.isNone && c == ')' then
      match depth with
      | 0 => spansFrom q 0 start (i + 1) cs
      | 1 => ⟨start, i⟩ :: spansFrom q 0 start (i + 1) cs
      | depth + 2 => spansFrom q (depth + 1) start (i + 1) cs
    else
      spansFrom (Text.quoteAfter q c) depth start (i + 1) cs

/-- **The outermost argument lists of an expression**, in order. -/
def outermostSpans (expression : Text) : List Span :=
  spansFrom none 0 0 0 expression

end Expression

end BranchPolicy
