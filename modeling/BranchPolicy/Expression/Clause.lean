import BranchPolicy.Expression.Call

/-!
# Clauses

An expression is a disjunction of clauses, and a clause is a conjunction of calls. The text is
cut at `||` first and each piece at `&&`, both outside quotes only. Blank pieces are skipped; the
checks reject the expressions that have them.

* `Clause` — calls joined by `&&`.
* `Expression.clauses` — the clauses of an expression, in order.
* `Expression.render` — clauses printed as an expression.
-/

namespace BranchPolicy

/-- A run of calls joined by `&&`, in order. -/
structure Clause where
  calls : List Call
  deriving DecidableEq, Repr

/-- The operator between the calls of a clause. -/
def andOperator : Text := "&&".toList

/-- The operator between clauses. -/
def orOperator : Text := "||".toList

namespace Clause

/-- The calls of one disjunct, blank pieces skipped. -/
def parse (piece : Text) : Clause where
  calls := ((Text.unquotedPieces andOperator piece).filter (!·.isBlank)).map Call.parse

/-- A clause as text. -/
def render (c : Clause) : Text :=
  " && ".toList.intercalate (c.calls.map (·.render))

end Clause

namespace Expression

/-- **The clauses of an expression**, in order; disjuncts without a call are skipped. -/
def clauses (expression : Text) : List Clause :=
  ((Text.unquotedPieces orOperator expression.trim).map Clause.parse).filter
    (!·.calls.isEmpty)

/-- Every call of an expression, in order. -/
def calls (expression : Text) : List Call :=
  (clauses expression).flatMap (·.calls)

/-- The name of every call of an expression, in order. -/
def names (expression : Text) : List Text :=
  (calls expression).map (·.name)

/-- Clauses joined by `||`. -/
def render (cs : List Clause) : Text :=
  " || ".toList.intercalate (cs.map (·.render))

end Expression

end BranchPolicy
