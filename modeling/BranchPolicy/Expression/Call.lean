import BranchPolicy.Expression.Argument

/-!
# Calls

A call is a name followed by an argument list in parentheses. Reading never fails: what the list
does not hold between its first opening and its last closing parenthesis is ignored here and
found by the checks.

* `Call` — a name, its arguments and the source text.
* `Call.argumentList` — the text between the parentheses.
* `Call.argumentTexts` — that text cut at the commas outside quotes.
* `Call.parse`, `Call.render` — from text and back.
-/

namespace BranchPolicy

/-- A call of a function; `source` is its trimmed text, empty for a call that was not read from a
text. -/
structure Call where
  name : Text
  arguments : List Argument
  source : Text := []
  deriving DecidableEq, Repr

namespace Call

/-- The kinds of the arguments, in order. -/
def kinds (c : Call) : List Kind :=
  c.arguments.map (·.kind)

/-- The text of a call: its source, or its name and arguments if it has none. -/
def render (c : Call) : Text :=
  if c.source.isEmpty then
    c.name ++ '(' :: (", ".toList.intercalate (c.arguments.map (·.render))) ++ [')']
  else c.source

/-- What stands between the first `(` and the last `)` of a text, empty if no `)` comes after a
`(`. -/
def argumentList (t : Text) : Text :=
  let afterOpening := (t.dropWhile (· != '(')).tail
  (afterOpening.reverse.dropWhile (· != ')')).tail.reverse

/-- The trimmed pieces of an argument list between its commas; a blank list has none, and any
other list keeps its empty pieces. -/
def argumentTexts (t : Text) : List Text :=
  if t.isBlank then [] else (Text.unquotedPieces [','] t).map (·.trim)

/-- The name of a trimmed call: what precedes its first `(`. -/
def nameOf (t : Text) : Text :=
  Text.trim (t.takeWhile (· != '('))

/-- **Reads a call.** Every text is read as some call. -/
def parse (t : Text) : Call :=
  let source := t.trim
  { name := nameOf source
    arguments := (argumentTexts (argumentList source)).map Argument.ofText
    source := source }

end Call

end BranchPolicy
