import BranchPolicy.Text.Basic

/-!
# Glob patterns

In a pattern `#` stands for one or more decimal digits and `*` for one or more characters of any
kind; every other character stands for itself. A wildcard that repeats the one just before it
adds nothing.

* `GlobToken` — one element of a pattern.
* `Glob.isPattern` — whether a text uses a wildcard.
* `Glob.collapse` — a pattern without repeated wildcards.
* `Glob.tokens` — the elements of a pattern.
-/

namespace BranchPolicy

/-- An element of a glob pattern. -/
inductive GlobToken where
  | literal (c : Char)
  | digits
  | anything
  deriving DecidableEq, Repr

/-- The element that a character of a pattern stands for. -/
def GlobToken.ofChar (c : Char) : GlobToken :=
  if c == '#' then .digits else if c == '*' then .anything else .literal c

namespace Glob

/-- Whether a character is a wildcard. -/
def isWildcard (c : Char) : Bool :=
  c == '#' || c == '*'

/-- Whether a text uses a wildcard. -/
def isPattern (t : Text) : Bool :=
  t.any isWildcard

/-- Drops each wildcard that equals the character kept before it, at first `previous`. -/
def collapseAfter : (previous : Option Char) → Text → Text
  | _, [] => []
  | previous, c :: cs =>
    if isWildcard c && previous == some c then collapseAfter previous cs
    else c :: collapseAfter (some c) cs

/-- A pattern with every run of one wildcard shortened to a single one. -/
def collapse (pattern : Text) : Text :=
  collapseAfter none pattern

/-- The elements of a pattern, in order. -/
def tokens (pattern : Text) : List GlobToken :=
  (collapse pattern).map GlobToken.ofChar

end Glob

end BranchPolicy
