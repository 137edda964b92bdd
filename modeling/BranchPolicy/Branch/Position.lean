import BranchPolicy.Text.Search

/-!
# Positions in branch names

Positions count from 0, and a digit here is one of 0 to 9. An empty branch name satisfies none of
these predicates.

* `Branch.isDigitAt`, `Branch.startsWithDigit`, `Branch.endsWithDigit` — single characters.
* `Branch.isDigitSection`, `Branch.isDigitSectionUpTo` — a stretch of characters.
* `Branch.isBefore`, `Branch.isAfter` — the order of two first occurrences.
-/

namespace BranchPolicy.Branch

/-! ## Digits -/

/-- Whether the character at a position is a digit; there is none past the end. -/
def isDigitAt (branch : Text) (position : Nat) : Bool :=
  branch[position]?.any Char.isDigit

/-- Whether the first character is a digit. -/
def startsWithDigit (branch : Text) : Bool :=
  branch.head?.any Char.isDigit

/-- Whether the last character is a digit. -/
def endsWithDigit (branch : Text) : Bool :=
  branch.getLast?.any Char.isDigit

/-- Whether every character from `first` to `last`, both included, is a digit; the part of the
section past the end of the name does not count. -/
def isDigitSection (branch : Text) (first last : Nat) : Bool :=
  !branch.isEmpty && ((branch.take (last + 1)).drop first).all Char.isDigit

/-- Whether the characters from `first` up to the next occurrence of the first character of
`delimiter` are digits, at least one of them, that occurrence not included. -/
def isDigitSectionUpTo (branch : Text) (first : Nat) : (delimiter : Text) → Bool
  | [] => false
  | d :: _ =>
    let rest := branch.drop first
    let digits := rest.takeWhile (· != d)
    rest.contains d && !digits.isEmpty && digits.all Char.isDigit

/-! ## Order -/

/-- Whether both values occur and `value` occurs first before `after` does. -/
def isBefore (branch value after : Text) : Bool :=
  !branch.isEmpty &&
    match value.firstIndex? branch, after.firstIndex? branch with
    | some i, some j => i < j
    | _, _ => false

/-- Whether both values occur and `value` occurs first after `before` does. -/
def isAfter (branch value before : Text) : Bool :=
  !branch.isEmpty &&
    match value.firstIndex? branch, before.firstIndex? branch with
    | some i, some j => j < i
    | _, _ => false

end BranchPolicy.Branch
