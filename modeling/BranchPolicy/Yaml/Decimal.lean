import BranchPolicy.Text.Basic

/-!
# Decimal numbers

A number with a decimal point or an exponent, as it is written in a document.

* `Decimal` — a sign, digits and the power of ten they are multiplied with.
* `Decimal.ofDigits` — the number with given digits before and after the point.
* `Decimal.render` — the text of a number.
-/

namespace BranchPolicy

/-- The number `digits` times ten to the power of `exponent`, with a sign, which zero has too. -/
structure Decimal where
  negative : Bool
  digits : Nat
  exponent : Int
  deriving DecidableEq, Repr

/-- The natural number that a sequence of digits denotes in a base up to sixteen. -/
def naturalOf (base : Nat) (digits : Text) : Nat :=
  digits.foldl (fun n c => base * n + digit c) 0
where
  /-- The value of a digit, a letter in either case standing for a digit above nine. -/
  digit (c : Char) : Nat :=
    if c.isDigit then c.toNat - '0'.toNat else c.toLower.toNat - 'a'.toNat + 10

namespace Decimal

/-- The number with the digits `whole` before and `fraction` after the point, times ten to the
power of `exponent`. -/
def ofDigits (negative : Bool) (whole fraction : Text) (exponent : Int) : Decimal :=
  ⟨negative, naturalOf 10 (whole ++ fraction), exponent - fraction.length⟩

/-! ## The text of a number

A number is written with all of its digits but the zeros at the end. The point is put where it
belongs if the first digit stands for a power of ten from the fourth below one to the fifteenth
above, with at least one digit on each side. A smaller or larger number has the point after its
first digit, and the power follows. -/

/-- The digits of a number without the zeros at the end. -/
def significantDigits (d : Decimal) : Text :=
  ((Nat.toDigits 10 d.digits).reverse.dropWhile (· == '0')).reverse

/-- The power of ten that the first digit of a number stands for. -/
def magnitude (d : Decimal) : Int :=
  (Nat.toDigits 10 d.digits).length - 1 + d.exponent

/-- The text of digits the first of which stands for ten to the power of `n`. -/
def integralText (digits : Text) (n : Nat) : Text :=
  let whole := digits.take (n + 1)
  let fraction := digits.drop (n + 1)
  whole ++ List.replicate (n + 1 - whole.length) '0' ++ '.' ::
    (if fraction.isEmpty then ['0'] else fraction)

/-- The text of digits that follow `zeros` zeros after the point. -/
def fractionalText (digits : Text) (zeros : Nat) : Text :=
  "0.".toList ++ List.replicate zeros '0' ++ digits

/-- The text of digits with the power of ten of the first one behind them. -/
def exponentText (digits : Text) (n : Int) : Text :=
  let power := Nat.toDigits 10 n.natAbs
  digits.take 1 ++ (if digits.tail.isEmpty then [] else '.' :: digits.tail) ++
    ['e', if n < 0 then '-' else '+'] ++ List.replicate (2 - power.length) '0' ++ power

/-- The text of a number without its sign. -/
def unsignedText (d : Decimal) : Text :=
  if d.digits = 0 then "0.0".toList
  else if 0 ≤ d.magnitude && d.magnitude < 16 then
    integralText d.significantDigits d.magnitude.toNat
  else if -4 ≤ d.magnitude && d.magnitude < 0 then
    fractionalText d.significantDigits (d.magnitude.natAbs - 1)
  else exponentText d.significantDigits d.magnitude

/-- **The text of a number.** -/
def render (d : Decimal) : Text :=
  if d.negative then '-' :: d.unsignedText else d.unsignedText

end Decimal

end BranchPolicy
