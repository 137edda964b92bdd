import BranchPolicy.Character.DecimalDigit
import BranchPolicy.Glob.Pattern

/-!
# Matching glob patterns

A match is found by marking places. A text of length `n` has the places 0 to `n` between its
characters; from the places where a match of a token may start, one pass over the text marks the
places where it may end, and these are the starts of the next token. The cost is the product of
the two lengths, whatever the number of wildcards.

* `GlobToken.ends` — the ends of the matches of one token.
* `Glob.ends` — the ends of the matches of a whole pattern.
* `Placement` — where in a text a pattern has to match.
* `Glob.isMatch` — whether it does.
-/

namespace BranchPolicy

/-- Whether a match of a token may end right after `c`, given whether one may start right before
`c` and whether one may end there. -/
def GlobToken.reaches (token : GlobToken) (c : Char) (starts ends : Bool) : Bool :=
  match token with
  | .literal d => starts && c == d
  | .digits => (starts || ends) && Character.isDecimalDigit c
  | .anything => starts || ends

/-- The places of a text where a match of a token may end, given the places where one may start
and whether one may end at the first place. -/
def GlobToken.ends (token : GlobToken) : (ends : Bool) → Text → (starts : List Bool) → List Bool
  | ends, [], _ => [ends]
  | ends, c :: cs, starts =>
    ends :: token.ends (token.reaches c (starts.headD false) ends) cs starts.tail

/-- Where in a text a pattern has to match. -/
inductive Placement where
  | anywhere
  | full
  | start
  | finish
  deriving DecidableEq, Repr

namespace Placement

/-- Whether a match must begin at the first place. -/
def fixesStart : Placement → Bool
  | .full | .start => true
  | .anywhere | .finish => false

/-- Whether a match must end at the last place. -/
def fixesEnd : Placement → Bool
  | .full | .finish => true
  | .anywhere | .start => false

end Placement

namespace Glob

/-- The places of a text where a match of all tokens may end, given where one may start. -/
def ends (tokens : List GlobToken) (t : Text) (starts : List Bool) : List Bool :=
  tokens.foldl (fun starts token => token.ends false t starts) starts

/-- The places where a match may start. -/
def starts (placement : Placement) (t : Text) : List Bool :=
  true :: List.replicate t.length (!placement.fixesStart)

/-- **Whether a pattern matches a text** at the given placement. -/
def isMatch (pattern : Text) (placement : Placement) (t : Text) : Bool :=
  let reached := ends (tokens pattern) t (starts placement t)
  if placement.fixesEnd then reached.getLast? == some true else reached.any id

end Glob

end BranchPolicy
