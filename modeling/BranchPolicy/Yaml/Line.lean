import BranchPolicy.Text.Basic

/-!
# Lines of a document

Line breaks, the comments and spaces between tokens, and what a line break inside a scalar stands
for.

* `Yaml.unifyBreaks` — a text whose carriage returns are line feeds.
* `Yaml.isAllowed` — the characters that a document may hold.
* `Yaml.isMarker` — the lines that start or end a document.
* `Yaml.gap` — what stands between two tokens.
* `Yaml.foldBreaks?` — the text that line breaks inside a scalar stand for.
-/

namespace BranchPolicy.Yaml

/-! ## Characters -/

/-- A text in which a line feed stands for each carriage return, with or without a line feed of its
own. -/
def unifyBreaks : Text → Text
  | [] => []
  | '\r' :: '\n' :: cs => '\n' :: unifyBreaks cs
  | '\r' :: cs => '\n' :: unifyBreaks cs
  | c :: cs => c :: unifyBreaks cs

/-- Whether a document may hold a character: no control character may stand in it but tabulator,
line breaks and the next-line character. -/
def isAllowed (c : Char) : Bool :=
  let n := c.toNat
  n == 0x09 || n == 0x0A || n == 0x0D || (0x20 ≤ n && n ≤ 0x7E) || n == 0x85 ||
    (0xA0 ≤ n && n ≤ 0xFFFD) || 0x10000 ≤ n

/-- Whether a character ends a line. -/
def isBreak (c : Char) : Bool :=
  c == '\n' || c == '\u0085' || c == '\u2028' || c == '\u2029'

/-- What a line break stands for where it is kept: itself if it separates lines or paragraphs, and
otherwise a line feed. -/
def keptBreak (c : Char) : Char :=
  if c == '\u2028' || c == '\u2029' then c else '\n'

/-- Whether an indicator can end before a text: a space, a tabulator, a line break or nothing
follows. -/
def endsIndicator : Text → Bool
  | [] => true
  | c :: _ => c == ' ' || c == '\t' || isBreak c

/-- Whether a line is a marker: three hyphens start a document, and three points end it. -/
def isMarker : Text → Bool
  | '-' :: '-' :: '-' :: cs => endsIndicator cs
  | '.' :: '.' :: '.' :: cs => endsIndicator cs
  | _ => false

/-! ## Between tokens -/

/-- What stands between two tokens: whether it holds a line break, the column of the next token and
the text from there on. -/
structure Gap where
  newLine : Bool
  column : Nat
  rest : Text
  deriving DecidableEq, Repr

/-- Skips spaces, line breaks and comments. A comment starts with `#` where a token could. -/
def gapFrom (inComment newLine : Bool) (column : Nat) : Text → Gap
  | [] => ⟨newLine, column, []⟩
  | c :: cs =>
    if isBreak c then gapFrom false true 0 cs
    else if inComment then gapFrom true newLine column cs
    else if c == ' ' then gapFrom false newLine (column + 1) cs
    else if c == '#' then gapFrom true newLine column cs
    else ⟨newLine, column, c :: cs⟩

/-- **What stands before the next token** of a text that starts in the given column of a line. -/
def gap (column : Nat) (t : Text) : Gap :=
  gapFrom false false column t

/-- What stands before the first token of a text that starts with a new line. -/
def firstGap (t : Text) : Gap :=
  gapFrom false true 0 t

namespace Gap

/-- Whether the next token is a marker. -/
def atMarker (g : Gap) : Bool :=
  g.newLine && g.column == 0 && isMarker g.rest

/-- Whether the document ends here. -/
def endsDocument (g : Gap) : Bool :=
  g.rest.isEmpty || g.atMarker

/-- Whether a block whose entries start in `column` ends here: with the document, or with a line
that starts before that column. -/
def endsBlock (g : Gap) (column : Nat) : Bool :=
  g.endsDocument || (g.newLine && g.column < column)

end Gap

/-! ## Inside scalars

A scalar that goes on in the next line loses the spaces around the break. A single break stands for
a space, and of several breaks the first stands for nothing. -/

/-- What line breaks stand for, the number of characters that they and the spaces around them take,
and the column and the text behind them. -/
structure Folded where
  text : Text
  width : Nat
  column : Nat
  rest : Text
  deriving DecidableEq, Repr

/-- Puts a character that is kept in front of what follows. -/
def Folded.push (c : Char) (f : Folded) : Folded :=
  { f with text := c :: f.text }

/-- Folds the breaks of a text after `width` characters that have been read, `column` of them on
the current line. A space is `owed` for a single break. There is nothing to fold before a
marker. -/
def foldFrom? (isPad : Char → Bool) : (owed : Bool) → (width column : Nat) → Text → Option Folded
  | owed, width, column, [] => some ⟨if owed then [' '] else [], width, column, []⟩
  | owed, width, column, c :: cs =>
    if isBreak c then
      if isMarker cs then none
      else (foldFrom? isPad false (width + 1) 0 cs).map (·.push (keptBreak c))
    else if isPad c then foldFrom? isPad owed (width + 1) (column + 1) cs
    else some ⟨if owed then [' '] else [], width, column, c :: cs⟩

/-- **What the line breaks at the start of a text stand for**, `isPad` telling which characters are
dropped at the start of a line; `none` if a marker follows one of them or there is no break. -/
def foldBreaks? (isPad : Char → Bool) : Text → Option Folded
  | [] => none
  | c :: cs =>
    if !isBreak c || isMarker cs then none
    else if keptBreak c == '\n' then foldFrom? isPad true 1 0 cs
    else (foldFrom? isPad false 1 0 cs).map (·.push c)

/-- What spaces at the start of a text stand for: themselves within a line, and nothing next to a
line break. -/
def foldSpaces? (isPad : Char → Bool) (t : Text) : Option Folded :=
  let pads := t.takeWhile isPad
  match t.dropWhile isPad with
  | [] => some ⟨pads, pads.length, 0, []⟩
  | c :: cs =>
    if isBreak c then
      (foldBreaks? isPad (c :: cs)).map fun f => { f with width := f.width + pads.length }
    else some ⟨pads, pads.length, 0, c :: cs⟩

end BranchPolicy.Yaml
