import BranchPolicy.Character.CodeRun

/-!
# Runs of a case mapping

* `CaseRun` — a run of code points that a case mapping shifts by one distance.
* `CaseRun.image?` — the image of a character under the first run that holds it.
-/

namespace BranchPolicy

/-- A run of code points that a case mapping shifts together; `target` is the image of the
first. -/
structure CaseRun where
  source : CodeRun
  target : Nat

/-- The image of a character under the first run that holds it, `none` if no run does. -/
def CaseRun.image? (runs : List CaseRun) (c : Char) : Option Char :=
  (runs.find? (·.source.contains c.toNat)).map fun r =>
    Char.ofNat (r.target + (c.toNat - r.source.first))

end BranchPolicy
