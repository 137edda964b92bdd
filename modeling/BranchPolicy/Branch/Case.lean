import BranchPolicy.Character.Case.Property
import BranchPolicy.Character.Letter
import BranchPolicy.Text.Basic

/-!
# The case of branch names

Only letters count, and there must be at least one. A title-case letter and a letter of a script
without case are in neither case.

* `Branch.isUpperCase`, `Branch.isLowerCase` — whether every letter has the case.
-/

namespace BranchPolicy.Branch

/-- Whether a name has letters and all of them have a property. -/
def allLetters (p : Char → Bool) (branch : Text) : Bool :=
  let letters := branch.filter Character.isLetter
  !letters.isEmpty && letters.all p

/-- Whether every letter of the name is upper case. -/
def isUpperCase (branch : Text) : Bool :=
  allLetters Character.isUppercase branch

/-- Whether every letter of the name is lower case. -/
def isLowerCase (branch : Text) : Bool :=
  allLetters Character.isLowercase branch

end BranchPolicy.Branch
