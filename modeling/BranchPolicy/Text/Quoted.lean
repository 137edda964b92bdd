import BranchPolicy.Text.Basic

/-!
# Quoted stretches

A quote character opens a quoted stretch that lasts until the same character comes again. Inside
it no other character has a meaning, so separators there do not separate.

* `Text.isQuote` — the two quote characters.
* `Text.quoteAfter` — the open quote after one more character.
* `Text.unquotedPieces` — a text cut at every separator that stands outside quotes; there is always
  a piece, `unquotedPieces_ne_nil`.
-/

namespace BranchPolicy.Text

/-- The character that opens and closes single-quoted stretches. -/
def singleQuote : Char := '\x27'

/-- The character that opens and closes double-quoted stretches. -/
def doubleQuote : Char := '\x22'

/-- Whether a character is a quote character. -/
def isQuote (c : Char) : Bool :=
  c == singleQuote || c == doubleQuote

/-- The open quote, if any, after reading `c` with the quote `q` open. -/
def quoteAfter (q : Option Char) (c : Char) : Option Char :=
  match q with
  | some opener => if c == opener then none else some opener
  | none => if isQuote c then some c else none

/-- Puts a character in front of the first piece. -/
def consFirst (c : Char) : List Text → List Text
  | [] => [[c]]
  | p :: ps => (c :: p) :: ps

/-- The pieces of a text, read with the quote `q` open and with the first `skip` characters
belonging to a separator already cut. -/
def piecesFrom (separator : Text) : (q : Option Char) → (skip : Nat) → Text → List Text
  | _, _, [] => [[]]
  | q, skip + 1, _ :: cs => piecesFrom separator q skip cs
  | q, 0, c :: cs =>
    if q.isNone && !isQuote c && separator.isPrefixOf (c :: cs) then
      [] :: piecesFrom separator none (separator.length - 1) cs
    else
      consFirst c (piecesFrom separator (quoteAfter q c) 0 cs)

/-- **Cuts a text at every separator outside quotes.** The scan runs from the left, an occurrence
is cut as it is met, and the pieces are neither trimmed nor dropped when empty. -/
def unquotedPieces (separator t : Text) : List Text :=
  piecesFrom separator none 0 t

/-! ## There is always a piece -/

theorem consFirst_ne_nil (c : Char) (ps : List Text) : consFirst c ps ≠ [] := by
  cases ps <;> simp [consFirst]

theorem piecesFrom_ne_nil (separator : Text) (q : Option Char) (skip : Nat) (t : Text) :
    piecesFrom separator q skip t ≠ [] := by
  fun_induction piecesFrom separator q skip t with
  | case1 => simp
  | case2 q skip c cs ih => exact ih
  | case3 q c cs h ih => simp
  | case4 q c cs h ih => exact consFirst_ne_nil c _

/-- Cutting a text gives at least one piece. -/
theorem unquotedPieces_ne_nil (separator t : Text) : unquotedPieces separator t ≠ [] :=
  piecesFrom_ne_nil separator none 0 t

end BranchPolicy.Text
