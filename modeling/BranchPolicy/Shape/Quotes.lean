import BranchPolicy.Shape.Fault

/-!
# The check of the quotes

An expression uses one quote style throughout, its quotes come in pairs, and each stands inside an
argument list. Lists are found by counting every parenthesis, also those inside strings.

* `hasQuoteOutside` — whether a quote stands outside all argument lists.
* `quotesFault` — the first thing wrong with the quotes, if any.
-/

namespace BranchPolicy

/-- Whether a character equal to `quote` stands where no more parentheses have opened than closed,
`depth` being the difference so far. -/
def hasQuoteOutside (quote : Char) : (depth : Int) → Text → Bool
  | _, [] => false
  | depth, c :: cs =>
    if c == '(' then hasQuoteOutside quote (depth + 1) cs
    else if c == ')' then hasQuoteOutside quote (depth - 1) cs
    else (c == quote && depth ≤ 0) || hasQuoteOutside quote depth cs

/-- The check of an expression that uses the quotes of one style only. -/
def quoteStyleFault (style : Quote) (t : Text) : Option ShapeFault :=
  if t.count style.mark % 2 ≠ 0 then some (.missingQuote style)
  else if hasQuoteOutside style.mark 0 t then some .quoteOutsideArguments
  else none

/-- **The check of the quotes.** -/
def quotesFault (t : Text) : Option ShapeFault :=
  match t.contains Text.singleQuote, t.contains Text.doubleQuote with
  | false, false => none
  | true, true => some .mixedQuotes
  | true, false => quoteStyleFault .single t
  | false, true => quoteStyleFault .double t

end BranchPolicy
