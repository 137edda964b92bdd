import BranchPolicy.Branch.Case
import BranchPolicy.Function.Application
import BranchPolicy.Function.Registry

/-!
# The standard functions

The functions that every expression can call, each a predicate on branch names of the folder
`Branch`, with their documentation.

* `Standard.overloads` — the overloads, in order of registration.
* `Registry.standard` — the registry of the standard functions.
-/

namespace BranchPolicy

namespace Standard

/-- A string parameter. -/
def stringParameter (name description : String) : Parameter :=
  ⟨name.toList, .string, description⟩

/-- A number parameter. -/
def numberParameter (name description : String) : Parameter :=
  ⟨name.toList, .number, description⟩

/-- An overload of a standard function. -/
def define (category : Category) (name description : String) (parameters : List Parameter)
    (predicate : Predicate) (examples : List String) : Overload where
  name := name.toList
  description := description
  category := category
  parameters := parameters
  predicate := predicate
  examples := examples

/-- The value that the whole name is compared to. -/
def comparedValue : Parameter :=
  stringParameter "value" "The value to compare against"

/-- The comparison of the whole name. -/
def comparisons : List Overload :=
  [define .comparison "equalTo"
    "Returns true if the branch name equals the value (globbing allowed)"
    [comparedValue] (onValue "equalTo" comparedValue equality)
    ["equalTo('develop')", "equalTo('release/v#.#.#')"]]

/-- The value that the search functions look for. -/
def soughtValue : Parameter :=
  stringParameter "value" "The text or glob pattern to look for"

/-- A function that looks for a value in the name. -/
def search (name description : String) (p : Text → Text → Bool) (examples : List String) :
    Overload :=
  define .search name description [soughtValue] (onValue name soughtValue (searching p)) examples

/-- The functions that look for a value in the name. -/
def searches : List Overload :=
  [search "contains" "Returns true if the branch name contains the value"
    Branch.includes ["contains('feature')", "contains('#-*')"],
   search "notContains" "Returns true if the branch name does not contain the value"
    Branch.excludes ["notContains('wip')"],
   search "startsWith" "Returns true if the branch name starts with the value"
    Branch.startsWith ["startsWith('feature/')", "startsWith('feature/#-')"],
   search "notStartsWith" "Returns true if the branch name does not start with the value"
    Branch.startsWithout ["notStartsWith('temp/')"],
   search "endsWith" "Returns true if the branch name ends with the value"
    Branch.endsWith ["endsWith('-branch')", "endsWith('preview.#')"],
   search "notEndsWith" "Returns true if the branch name does not end with the value"
    Branch.endsWithout ["notEndsWith('-old')"]]

/-- The value that is counted. -/
def countedValue : Parameter :=
  stringParameter "value" "The text to count"

/-- The number of occurrences that the count is compared to. -/
def comparedTotal : Parameter :=
  numberParameter "total" "The number of occurrences to compare to"

/-- A function that counts a value in the name; `unlike` is its answer for a total that is no
number. -/
def count (name description : String) (p : Text → Text → Nat → Bool)
    (unlike : Except Misuse Bool) (examples : List String) : Overload :=
  define .count name description [countedValue, comparedTotal]
    (onValues name countedValue comparedTotal (counting p unlike)) examples

/-- The functions that count a value in the name. -/
def counts : List Overload :=
  [count "existsTotal" "Returns true if the value occurs exactly total times"
    Branch.occursExactly (.ok false) ["existsTotal('/', 1)"],
   count "existsLessThan" "Returns true if the value occurs fewer than total times"
    Branch.occursLess (.error (.compared "<" .number .string)) ["existsLessThan('-', 3)"],
   count "existsGreaterThan" "Returns true if the value occurs more than total times"
    Branch.occursMore (.error (.compared ">" .number .string)) ["existsGreaterThan('-', 0)"]]

/-- The position of a single character. -/
def characterPosition : Parameter :=
  numberParameter "charPos" "Zero-based character position"

/-- The position at which a section starts. -/
def sectionStart : Parameter :=
  numberParameter "startPos" "Zero-based start of the section"

/-- The position at which a section ends. -/
def sectionEnd : Parameter :=
  numberParameter "endPos" "Zero-based inclusive end of the section"

/-- The character before which a section ends. -/
def sectionDelimiter : Parameter :=
  stringParameter "upToChar" "Character that ends the section (exclusive)"

/-- The functions that ask for digits at places of the name. -/
def digitPositions : List Overload :=
  [define .position "isCharNum"
    "Returns true if the character at charPos is a digit"
    [characterPosition] (onValue "isCharNum" characterPosition digitAt) ["isCharNum(8)"],
   define .position "charIsNum"
    "Alias of isCharNum"
    [characterPosition] (onValue "isCharNum" characterPosition digitAt) ["charIsNum(8)"],
   define .position "isSectionNum"
    "Returns true if every character from startPos to endPos is a digit"
    [sectionStart, sectionEnd] (onValues "isSectionNum" sectionStart sectionEnd digitSection)
    ["isSectionNum(8, 10)"],
   define .position "isSectionNum"
    "Returns true if every character from startPos up to upToChar is a digit"
    [sectionStart, sectionDelimiter]
    (onValues "isSectionNumUpTo" sectionStart sectionDelimiter digitSectionUpTo)
    ["isSectionNum(8, '-')"],
   define .position "startsWithNum"
    "Returns true if the branch name starts with a digit"
    [] (onName "startsWithNum" Branch.startsWithDigit) ["startsWithNum()"],
   define .position "endsWithNum"
    "Returns true if the branch name ends with a digit"
    [] (onName "endsWithNum" Branch.endsWithDigit) ["endsWithNum()"]]

/-- A function that compares the first occurrences of two values. -/
def order (name description : String) (first second : Parameter) (p : Text → Text → Text → Bool)
    (examples : List String) : Overload :=
  define .position name description [first, second] (onValues name first second (ordering p))
    examples

/-- The functions that ask for the order of two values in the name. -/
def orders : List Overload :=
  [order "isBefore" "Returns true if value first occurs before after"
    (stringParameter "value" "The text expected first")
    (stringParameter "after" "The text expected after value")
    Branch.isBefore ["isBefore('feature', '/')"],
   order "isAfter" "Returns true if value first occurs after before"
    (stringParameter "value" "The text expected last")
    (stringParameter "before" "The text expected before value")
    Branch.isAfter ["isAfter('-', 'feature/')"]]

/-- The length that names are compared to. -/
def comparedLength : Parameter :=
  numberParameter "length" "The length to compare to"

/-- A function that compares the length of the name by a sign. -/
def length (name description : String) (p : Text → Nat → Bool) (sign : String)
    (examples : List String) : Overload :=
  define .length name description [comparedLength]
    (onValue name comparedLength (measuring p sign)) examples

/-- The functions that measure the name. -/
def lengths : List Overload :=
  [length "lenLessThan" "Returns true if the branch name is shorter than length"
    Branch.isShorter "<" ["lenLessThan(50)"],
   length "lenGreaterThan" "Returns true if the branch name is longer than length"
    Branch.isLonger ">" ["lenGreaterThan(3)"]]

/-- The functions that ask for the case of the letters. -/
def cases : List Overload :=
  [define .case "allUpperCase"
    "Returns true if every letter in the branch name is upper case"
    [] (onName "allUpperCase" Branch.isUpperCase) ["allUpperCase()"],
   define .case "allLowerCase"
    "Returns true if every letter in the branch name is lower case"
    [] (onName "allLowerCase" Branch.isLowerCase) ["allLowerCase()"]]

/-- Every standard overload, in order of registration. -/
def overloads : List Overload :=
  comparisons ++ searches ++ counts ++ digitPositions ++ orders ++ lengths ++ cases

end Standard

/-- **The registry of the standard functions.** -/
def Registry.standard : Registry where
  functions := Grouping.ofList (·.name) Standard.overloads

end BranchPolicy
