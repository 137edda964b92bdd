import BranchPolicy.Expression.Argument

/-!
# Misuse of predicates

A registry can give a predicate other parameters than the ones it is made for. Then values of the
other kind reach it, or more or fewer values than it takes, and it may be unable to answer.

* `Misuse` — why a predicate cannot answer for the values that it receives.
* `Misuse.ofCount` — the misuse of giving a predicate the wrong number of values.
* `Misuse.message` — the text that reports a misuse.
-/

namespace BranchPolicy

/-- Why a predicate cannot answer for the values that it receives: their number is wrong, or it
would have to do with one of them what that kind of value does not allow. -/
inductive Misuse where
  | tooFew (predicate : Text) (missing : List Text)
  | tooMany (predicate : Text) (expected actual : Nat)
  | searchedNumber
  | countedNumber
  | locatedNumber
  | indexedNumber
  | slicedByString
  | compared (sign : String) (left right : Kind)
  deriving DecidableEq, Repr

namespace Misuse

/-- The misuse of giving `actual` values to a predicate with the given parameters, when that is
not their number. The values are taken for the first parameters. -/
def ofCount (predicate : Text) (parameters : List Text) (actual : Nat) : Misuse :=
  if actual < parameters.length then .tooFew predicate (parameters.drop actual)
  else .tooMany predicate parameters.length actual

/-! ## Messages

The messages know a predicate by a name of its own, in small letters behind an underscore, and the
kinds of values by short words. The branch name counts as one of the values. -/

/-- A name in small letters, an underscore before each letter that was a capital. -/
def underscored (name : Text) : Text :=
  name.flatMap fun c => if c.isUpper then ['_', c.toLower] else [c]

/-- The name of a predicate in messages. -/
def predicateName (predicate : Text) : String :=
  "_" ++ String.ofList (underscored predicate) ++ "()"

/-- The word for a kind of value in messages. -/
def kindWord : Kind → String
  | .string => "str"
  | .number => "int"

/-- A number of values in messages. -/
def countText (n : Nat) (adjectives : String) : String :=
  toString n ++ " " ++ adjectives ++ (if n = 1 then " argument" else " arguments")

/-- The text that reports a misuse. -/
def message : Misuse → String
  | .tooFew predicate missing =>
    predicateName predicate ++ " missing " ++ countText missing.length "required positional" ++
      ": " ++ " and ".intercalate
        (missing.map fun p => "'" ++ String.ofList (underscored p) ++ "'")
  | .tooMany predicate expected actual =>
    predicateName predicate ++ " takes " ++ countText (expected + 1) "positional" ++ " but " ++
      toString (actual + 1) ++ " were given"
  | .searchedNumber => "argument of type 'int' is not iterable"
  | .countedNumber => "decoding to str: need a bytes-like object, int found"
  | .locatedNumber => "must be str, not int"
  | .indexedNumber => "'int' object is not subscriptable"
  | .slicedByString => "slice indices must be integers or None or have an __index__ method"
  | .compared sign left right =>
    "'" ++ sign ++ "' not supported between instances of '" ++ kindWord left ++ "' and '" ++
      kindWord right ++ "'"

end Misuse

end BranchPolicy
