/-!
# Classes of characters

A class of characters is a list of runs of code points. A run may step over every other code
point, since capital and small letters often alternate in the code charts.

* `CodeRun` — the code points `first`, `first + step`, …, `last`.
* `CodeRun.inAny` — whether a character lies in one of the runs of a class.
-/

namespace BranchPolicy

/-- The code points from `first` to `last` at distance `step`. -/
structure CodeRun where
  first : Nat
  last : Nat
  step : Nat := 1

namespace CodeRun

/-- Whether a code point belongs to a run. -/
def contains (r : CodeRun) (n : Nat) : Bool :=
  r.first ≤ n && n ≤ r.last && (n - r.first) % r.step == 0

/-- Whether a character belongs to one of the runs. -/
def inAny (runs : List CodeRun) (c : Char) : Bool :=
  runs.any (·.contains c.toNat)

end CodeRun

end BranchPolicy
