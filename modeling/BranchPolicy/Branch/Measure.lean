import BranchPolicy.Text.Search

/-!
# Counting and measuring branch names

Occurrences are literal and disjoint. An empty branch name satisfies none of these predicates.

* `Branch.occursExactly`, `Branch.occursLess`, `Branch.occursMore` — how often a value occurs.
* `Branch.isShorter`, `Branch.isLonger` — the length of the name.
-/

namespace BranchPolicy.Branch

/-- Whether the value occurs exactly `total` times. -/
def occursExactly (branch value : Text) (total : Nat) : Bool :=
  !branch.isEmpty && value.countDisjoint branch == total

/-- Whether the value occurs fewer than `total` times. -/
def occursLess (branch value : Text) (total : Nat) : Bool :=
  !branch.isEmpty && decide (value.countDisjoint branch < total)

/-- Whether the value occurs more than `total` times. -/
def occursMore (branch value : Text) (total : Nat) : Bool :=
  !branch.isEmpty && decide (total < value.countDisjoint branch)

/-- Whether the name is shorter than `length`. -/
def isShorter (branch : Text) (length : Nat) : Bool :=
  !branch.isEmpty && decide (branch.length < length)

/-- Whether the name is longer than `length`. -/
def isLonger (branch : Text) (length : Nat) : Bool :=
  !branch.isEmpty && decide (length < branch.length)

end BranchPolicy.Branch
