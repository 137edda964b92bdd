import BranchPolicy.Text.Quoted

/-!
# Arguments

A call takes string and number arguments. A number argument keeps the text it was written with;
whether that text denotes a number is asked only when its value is needed.

* `Kind` — string or number, with the word that signatures use for it.
* `Argument` — an argument as written.
* `Argument.ofText` — tells the two kinds apart by the quotes.
* `Value` — what a predicate receives.
* `readNumber` — the number that a text denotes, if it does.
-/

namespace BranchPolicy

/-- The two kinds of parameters and arguments. -/
inductive Kind where
  | string
  | number
  deriving DecidableEq, Repr

/-- The word for a kind in signatures. -/
def Kind.word : Kind → Text
  | .string => "string".toList
  | .number => "number".toList

/-- An argument as written: a string without its quotes, or the text of a number. -/
inductive Argument where
  | string (content : Text)
  | number (digits : Text)
  deriving DecidableEq, Repr

/-- The value of an argument. -/
inductive Value where
  | string (content : Text)
  | number (n : Nat)
  deriving DecidableEq, Repr

/-! ## Numbers

A number is a non-empty text of the digits 0 to 9 whose value fits into 32 bits. A text of more
than 4300 digits is refused before it is read, whatever its value. -/

/-- The largest number that an argument can denote. -/
def largestNumber : Nat := 4294967295

/-- The greatest number of digits that is read or written. -/
def mostDigits : Nat := 4300

/-- The error of reading or writing more digits than `mostDigits`. -/
inductive OverlongNumber where
  | overlong
  deriving DecidableEq, Repr

/-- Whether a text is a non-empty sequence of the digits 0 to 9. -/
def isDigits (t : Text) : Bool :=
  !t.isEmpty && t.all Char.isDigit

/-- The number written by a sequence of digits, most significant first. -/
def digitsValue (t : Text) : Nat :=
  t.foldl (fun n c => 10 * n + (c.toNat - '0'.toNat)) 0

/-- **The number that a text denotes**, `none` if it is no number or exceeds the largest one. -/
def readNumber (t : Text) : Except OverlongNumber (Option Nat) :=
  if !isDigits t then .ok none
  else if t.length > mostDigits then .error .overlong
  else if digitsValue t ≤ largestNumber then .ok (some (digitsValue t))
  else .ok none

/-- A number that is read is not larger than the largest one. -/
theorem le_largestNumber_of_readNumber {t : Text} {n : Nat} (h : readNumber t = .ok (some n)) :
    n ≤ largestNumber := by
  unfold readNumber at h
  split at h
  · simp at h
  · split at h
    · simp at h
    · split at h
      · next hle =>
        simp only [Except.ok.injEq, Option.some.injEq] at h
        exact h ▸ hle
      · simp at h

/-- A text of at most `mostDigits` characters is read without an error. -/
theorem readNumber_ne_error {t : Text} (h : t.length ≤ mostDigits) (e : OverlongNumber) :
    readNumber t ≠ .error e := by
  unfold readNumber
  split
  · simp
  · rw [if_neg (Nat.not_lt.2 h)]
    split <;> simp

namespace Argument

/-- The kind of an argument. -/
def kind : Argument → Kind
  | .string _ => .string
  | .number _ => .number

/-- The value of an argument, `none` for a number text that denotes no number. -/
def value : Argument → Except OverlongNumber (Option Value)
  | .string content => .ok (some (.string content))
  | .number digits => (readNumber digits).map (·.map .number)

/-- A text that starts and ends with the same quote character, the two being different places in
it, is a string; every other text is a number text. -/
def ofText : Text → Argument
  | [] => .number []
  | c :: cs =>
    if Text.isQuote c && cs.getLast? == some c then .string cs.dropLast
    else .number (c :: cs)

/-- An argument as text, strings in single quotes. -/
def render : Argument → Text
  | .string content => Text.singleQuote :: content ++ [Text.singleQuote]
  | .number digits => digits

end Argument

end BranchPolicy
