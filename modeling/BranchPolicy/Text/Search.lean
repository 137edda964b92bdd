import BranchPolicy.Text.Basic

/-!
# Searching in texts

Occurrences of one text in another, always literal.

* `Text.firstIndex?` — where the first occurrence starts.
* `Text.occursIn` — whether there is one.
* `Text.countDisjoint` — how many a scan from the left finds when each one starts after the end
  of the one before.
-/

namespace BranchPolicy.Text

/-- The index at which the first occurrence of `needle` starts; an empty `needle` occurs at the
start of every text. -/
def firstIndex? (needle : Text) : Text → Option Nat
  | [] => if needle.isEmpty then some 0 else none
  | c :: cs =>
    if needle.isPrefixOf (c :: cs) then some 0
    else (firstIndex? needle cs).map (· + 1)

/-- Whether `needle` occurs in a text. -/
def occursIn (needle t : Text) : Bool :=
  (firstIndex? needle t).isSome

/-- The number of occurrences of `needle` met from the left, the first `skip` characters being
part of an occurrence already counted. -/
def countFrom (needle : Text) : (skip : Nat) → Text → Nat
  | _, [] => 0
  | skip + 1, _ :: cs => countFrom needle skip cs
  | 0, c :: cs =>
    if needle.isPrefixOf (c :: cs) then countFrom needle (needle.length - 1) cs + 1
    else countFrom needle 0 cs

/-- The number of pairwise disjoint occurrences of `needle` in a text, counted greedily from the
left; an empty `needle` counts as never occurring. -/
def countDisjoint (needle t : Text) : Nat :=
  if needle.isEmpty then 0 else countFrom needle 0 t

end BranchPolicy.Text
