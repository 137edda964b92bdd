import BranchPolicy.Glob.Matching
import BranchPolicy.Text.Search

/-!
# Comparing and searching branch names

The values of these predicates may be glob patterns. An empty branch name satisfies none of them
but the comparison with the empty value.

* `Branch.equals` — the whole name.
* `Branch.includes`, `Branch.startsWith`, `Branch.endsWith` — a part of the name.
* `Branch.excludes`, `Branch.startsWithout`, `Branch.endsWithout` — their negations on names that
  are not empty.
-/

namespace BranchPolicy.Branch

/-- Whether the name equals the value or matches it as a pattern. -/
def equals (branch value : Text) : Bool :=
  if value.isEmpty && branch.isEmpty then true
  else if Glob.isPattern value then !branch.isEmpty && Glob.isMatch value .full branch
  else value == branch

/-- Whether the value occurs in the name. -/
def includes (branch value : Text) : Bool :=
  !branch.isEmpty &&
    if Glob.isPattern value then Glob.isMatch value .anywhere branch
    else value.occursIn branch

/-- Whether the value does not occur in the name. -/
def excludes (branch value : Text) : Bool :=
  !branch.isEmpty && !includes branch value

/-- Whether the name starts with the value. -/
def startsWith (branch value : Text) : Bool :=
  !branch.isEmpty &&
    if Glob.isPattern value then Glob.isMatch value .start branch
    else value.isPrefixOf branch

/-- Whether the name does not start with the value. -/
def startsWithout (branch value : Text) : Bool :=
  !branch.isEmpty && !startsWith branch value

/-- Whether the name ends with the value. -/
def endsWith (branch value : Text) : Bool :=
  !branch.isEmpty &&
    if Glob.isPattern value then Glob.isMatch value .finish branch
    else value.isSuffixOf branch

/-- Whether the name does not end with the value. -/
def endsWithout (branch value : Text) : Bool :=
  !branch.isEmpty && !endsWith branch value

end BranchPolicy.Branch
