import BranchPolicy.Branch.Measure
import BranchPolicy.Branch.Position
import BranchPolicy.Branch.Search
import BranchPolicy.Function.Misuse
import BranchPolicy.Function.Overload

/-!
# Predicates applied to values

The predicates of the folder `Branch` take texts and numbers. Here they are applied to values of
either kind. Values of the kinds that a predicate is made for get its answer. Of other values it
asks as little as it can: an empty name is answered without a look at them, and the number zero
stands for the empty text where a text is only asked whether it is empty.

* `Standard.equality`, `Standard.searching` — predicates of one text.
* `Standard.counting` — predicates of a text and the number of its occurrences.
* `Standard.digitAt`, `Standard.digitSection`, `Standard.digitSectionUpTo` — predicates of places.
* `Standard.ordering` — predicates of two texts.
* `Standard.measuring` — predicates of a length.
* `Standard.onName`, `Standard.onValue`, `Standard.onValues` — the predicates of functions.
-/

namespace BranchPolicy.Standard

/-- The answer about an empty name, and the misuse about any other. -/
def unlessEmpty (branch : Text) (misuse : Misuse) : Except Misuse Bool :=
  if branch.isEmpty then .ok false else .error misuse

/-! ## One text -/

/-- The comparison of the name with a value. -/
def equality (branch : Text) : Value → Except Misuse Bool
  | .string s => .ok (Branch.equals branch s)
  | .number n => if branch.isEmpty && n == 0 then .ok true else .error .searchedNumber

/-- A predicate that looks for a text in the name. -/
def searching (p : Text → Text → Bool) (branch : Text) : Value → Except Misuse Bool
  | .string s => .ok (p branch s)
  | .number _ => unlessEmpty branch .searchedNumber

/-! ## Occurrences -/

/-- The text that is counted. -/
def countedText : Value → Except Misuse Text
  | .string s => .ok s
  | .number 0 => .ok []
  | .number _ => .error .countedNumber

/-- A predicate that compares the number of occurrences of a text with a total; `unlike` is the
answer for a total that is no number. -/
def counting (p : Text → Text → Nat → Bool) (unlike : Except Misuse Bool) (branch : Text) :
    Value → Value → Except Misuse Bool
  | .string s, .number n => .ok (p branch s n)
  | value, total =>
    if branch.isEmpty then .ok false
    else (countedText value).bind fun s =>
      match total with
      | .number n => .ok (p branch s n)
      | .string _ => unlike

/-! ## Places -/

/-- Whether the character at a position is a digit. -/
def digitAt (branch : Text) : Value → Except Misuse Bool
  | .number n => .ok (Branch.isDigitAt branch n)
  | .string _ => unlessEmpty branch (.compared ">=" .string .number)

/-- Whether a section holds digits only. Its end is looked at before its start. -/
def digitSection (branch : Text) : (first last : Value) → Except Misuse Bool
  | .number m, .number n => .ok (Branch.isDigitSection branch m n)
  | .string _, .number _ => unlessEmpty branch .slicedByString
  | _, .string _ => unlessEmpty branch (.compared "<" .number .string)

/-- Whether a value is the empty text or stands for it. -/
def isNothing : Value → Bool
  | .string s => s.isEmpty
  | .number n => n == 0

/-- Whether a section up to a delimiter holds digits only. A section that starts past the end of
the name is answered without a look at the first character of the delimiter. -/
def digitSectionUpTo (branch : Text) : (first delimiter : Value) → Except Misuse Bool
  | .number n, .string s => .ok (Branch.isDigitSectionUpTo branch n s)
  | .number n, delimiter =>
    if isNothing delimiter || branch.length ≤ n then .ok false else .error .indexedNumber
  | .string _, delimiter =>
    if isNothing delimiter then .ok false
    else unlessEmpty branch (.compared ">=" .string .number)

/-! ## Two texts -/

/-- A predicate of the first occurrences of two texts. -/
def ordering (p : Text → Text → Text → Bool) (branch : Text) : Value → Value → Except Misuse Bool
  | .string s, .string t => .ok (p branch s t)
  | _, _ => unlessEmpty branch .locatedNumber

/-! ## Lengths -/

/-- A predicate that compares the length of the name by a sign. -/
def measuring (p : Text → Nat → Bool) (sign : String) (branch : Text) : Value → Except Misuse Bool
  | .number n => .ok (p branch n)
  | .string _ => unlessEmpty branch (.compared sign .number .string)

/-! ## Predicates of functions

The predicate of a function first needs the right number of values. Its name and those of its
parameters are there for the message. -/

/-- The predicate that answers for the name alone. -/
def onName (name : String) (p : Text → Bool) : Predicate
  | branch, [] => .ok (p branch)
  | _, values => .error (Misuse.ofCount name.toList [] values.length).message

/-- The predicate that answers for the name and a value. -/
def onValue (name : String) (parameter : Parameter)
    (answer : Text → Value → Except Misuse Bool) : Predicate
  | branch, [v] => (answer branch v).mapError Misuse.message
  | _, values => .error (Misuse.ofCount name.toList [parameter.name] values.length).message

/-- The predicate that answers for the name and two values. -/
def onValues (name : String) (first second : Parameter)
    (answer : Text → Value → Value → Except Misuse Bool) : Predicate
  | branch, [v, w] => (answer branch v w).mapError Misuse.message
  | _, values =>
    .error (Misuse.ofCount name.toList [first.name, second.name] values.length).message

end BranchPolicy.Standard
