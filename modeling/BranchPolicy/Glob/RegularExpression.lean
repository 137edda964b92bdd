import BranchPolicy.Glob.Pattern

/-!
# Glob patterns as regular expressions

* `GlobToken.regex` — the regular expression of one element.
* `Glob.regex` — the regular expression that matches what a pattern matches.
-/

namespace BranchPolicy

/-- Whether a character has a meaning of its own in a regular expression, or is a blank that the
verbose notation would skip, and so is written with a backslash. -/
def isEscaped (c : Char) : Bool :=
  "()[]{}?*+-|^$\\.&~# \t\n\r\x0b\x0c".toList.contains c

/-- The regular expression of an element of a pattern. -/
def GlobToken.regex : GlobToken → Text
  | .literal c => if isEscaped c then ['\\', c] else [c]
  | .digits => "\\d+".toList
  | .anything => ".+".toList

/-- **The regular expression of a pattern**, its elements one after the other. -/
def Glob.regex (pattern : Text) : Text :=
  (Glob.tokens pattern).flatMap GlobToken.regex

end BranchPolicy
