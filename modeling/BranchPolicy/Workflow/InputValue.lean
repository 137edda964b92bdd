import BranchPolicy.Character.Case.Lower
import BranchPolicy.Character.Printable
import BranchPolicy.Expression.Argument

/-!
# Input values

An input is given on the command line, in the environment or in a config file. A config file can
give values other than texts; a value has a truth value, and it has a text unless a number in it is
too long to be written.

* `InputValue` — the values.
* `InputValue.isTruthy` — whether a value counts as given.
* `InputValue.render` — the text of a value.
* `InputValue.list`, `InputValue.table` — the values that collections are.
* `InputValue.flagOfWord?` — the flag that a word stands for.
-/

namespace BranchPolicy

/-- The value of an input. Of a value that is no text, truth value or integer no more is kept than
its text, if it has one, and whether it counts as given. -/
inductive InputValue where
  | null
  | flag (b : Bool)
  | integer (n : Int)
  | text (t : Text)
  | other (shown : Option Text) (filled : Bool)
  deriving DecidableEq, Repr

namespace InputValue

/-- Whether a value counts as given: null, false, zero and everything empty do not. -/
def isTruthy : InputValue → Bool
  | .null => false
  | .flag b => b
  | .integer n => n != 0
  | .text t => !t.isEmpty
  | .other _ filled => filled

/-- The text of an integer, which has at most `mostDigits` digits. -/
def integerText (n : Int) : Except OverlongNumber Text :=
  if (Nat.toDigits 10 n.natAbs).length > mostDigits then .error .overlong
  else .ok (toString n).toList

/-- **The text of a value.** -/
def render : InputValue → Except OverlongNumber Text
  | .null => .ok "None".toList
  | .flag true => .ok "True".toList
  | .flag false => .ok "False".toList
  | .integer n => integerText n
  | .text t => .ok t
  | .other (some t) _ => .ok t
  | .other none _ => .error .overlong

/-! ## Collections

In the text of a collection a text stands in quotes, double ones if it holds a single quote and no
double one. Backslashes, the quote itself and the unprintable characters are escaped; every other
character stands for itself. -/

/-- A code point as an escape of two, four or eight hexadecimal digits. -/
def escapedCode (n : Nat) : Text :=
  let digits := Nat.toDigits 16 n
  let (mark, width) := if n < 0x100 then ('x', 2) else if n < 0x10000 then ('u', 4) else ('U', 8)
  '\\' :: mark :: (List.replicate (width - digits.length) '0' ++ digits)

/-- A character of a text in quotes. -/
def escaped (quote c : Char) : Text :=
  if c == quote || c == '\\' then ['\\', c]
  else if c == '\n' then ['\\', 'n']
  else if c == '\r' then ['\\', 'r']
  else if c == '\t' then ['\\', 't']
  else if Character.isPrintable c then [c]
  else escapedCode c.toNat

/-- A text in quotes. -/
def inQuotes (t : Text) : Text :=
  let quote := if t.contains '\x27' && !t.contains '\x22' then '\x22' else '\x27'
  quote :: t.flatMap (escaped quote) ++ [quote]

/-- A value as a member of a collection. -/
def asMember : InputValue → Except OverlongNumber Text
  | .text t => .ok (inQuotes t)
  | v => v.render

/-- The value that a list of values is. -/
def list (items : List InputValue) : InputValue :=
  let shown := (items.mapM asMember).toOption
  .other (shown.map fun members => '[' :: ", ".toList.intercalate members ++ [']'])
    (!items.isEmpty)

/-- Puts an entry into a table: in the place of the entry with the same key, or at the end. -/
def putEntry (key v : InputValue) :
    List (InputValue × InputValue) → List (InputValue × InputValue)
  | [] => [(key, v)]
  | e :: es => if e.1 = key then (key, v) :: es else e :: putEntry key v es

/-- An entry of a table as its text shows it. -/
def entryText (e : InputValue × InputValue) : Except OverlongNumber Text := do
  return (← e.1.asMember) ++ [':', ' '] ++ (← e.2.asMember)

/-- The value that a table of entries is; the last entry with a key counts. -/
def table (entries : List (InputValue × InputValue)) : InputValue :=
  let kept := entries.foldl (fun es e => putEntry e.1 e.2 es) []
  let shown := (kept.mapM entryText).toOption
  .other (shown.map fun members => '\x7b' :: ", ".toList.intercalate members ++ ['\x7d'])
    (!entries.isEmpty)

/-! ## Flags -/

/-- The words for a set flag. -/
def setWords : List Text :=
  ["true", "yes", "1", "on"].map (·.toList)

/-- The words for a cleared flag. -/
def clearedWords : List Text :=
  ["false", "no", "0", "off"].map (·.toList)

/-- **The flag that a word stands for**, trimmed and in capital or small letters. -/
def flagOfWord? (t : Text) : Option Bool :=
  let word := t.trim.lower
  if setWords.contains word then some true
  else if clearedWords.contains word then some false
  else none

end InputValue

end BranchPolicy
