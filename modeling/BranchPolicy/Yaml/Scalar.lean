import BranchPolicy.Yaml.Line

/-!
# Scalars of a document

A scalar is written in single quotes, in double quotes or plainly. It may go on over several
lines.

* `Yaml.quoted?` — reads a scalar in quotes.
* `Yaml.startsPlain` — where a plain scalar can start.
* `Yaml.plain` — reads a plain scalar.
-/

namespace BranchPolicy.Yaml

/-! ## Quoted scalars -/

/-- The value of a hexadecimal digit. -/
def hexDigit? (c : Char) : Option Nat :=
  if c.isDigit then some (c.toNat - '0'.toNat)
  else if 'a' ≤ c ∧ c ≤ 'f' then some (c.toNat - 'a'.toNat + 10)
  else if 'A' ≤ c ∧ c ≤ 'F' then some (c.toNat - 'A'.toNat + 10)
  else none

/-- The character with the code point that a text starts with, written in `width` hexadecimal
digits. -/
def hexChar? (width : Nat) (t : Text) : Option Char := do
  let digits ← (t.take width).mapM hexDigit?
  let code := digits.foldl (16 * · + ·) 0
  if digits.length = width ∧ code.isValidChar then some (Char.ofNat code) else none

/-- The characters that a backslash and one further character stand for. -/
def escapes : List (Char × Char) :=
  [('0', '\x00'), ('a', '\x07'), ('b', '\x08'), ('t', '\t'), ('\t', '\t'), ('n', '\n'),
   ('v', '\x0b'), ('f', '\x0c'), ('r', '\r'), ('e', '\x1b'), (' ', ' '), ('\x22', '\x22'),
   ('/', '/'), ('\\', '\\'), ('N', '\u0085'), ('_', '\u00a0'), ('L', '\u2028'), ('P', '\u2029')]

/-- The numbers of hexadecimal digits of the escapes that name a code point. -/
def codeWidths : List (Char × Nat) :=
  [('x', 2), ('u', 4), ('U', 8)]

/-- Whether a character is dropped next to a line break in a quoted scalar. -/
def isQuotedPad (c : Char) : Bool :=
  c == ' ' || c == '\t'

/-- What a backslash stands for together with what follows it, and how many characters that are. A
line break after a backslash stands for nothing. -/
def escape? : Text → Option (Text × Nat)
  | [] => none
  | c :: cs =>
    match escapes.lookup c, codeWidths.lookup c with
    | some image, _ => some ([image], 1)
    | none, some width => (hexChar? width cs).map fun image => ([image], width + 1)
    | none, none =>
      if isBreak c && !isMarker cs then
        (foldFrom? isQuotedPad false 1 0 cs).map fun f => (f.text, f.width)
      else none

/-- The content of a quoted scalar without its first `skip` characters, and the text after its
closing quote. In double quotes a backslash escapes what follows; in single quotes a quote is
written twice. -/
def quotedFrom? (quote : Char) : (skip : Nat) → Text → Option (Text × Text)
  | _, [] => none
  | skip + 1, _ :: cs => quotedFrom? quote skip cs
  | 0, c :: cs =>
    if c == quote then
      if quote == '\x27' && cs.head? == some quote then
        (quotedFrom? quote 1 cs).map fun (t, rest) => (quote :: t, rest)
      else some ([], cs)
    else if c == '\\' && quote == '\x22' then
      match escape? cs with
      | none => none
      | some (image, width) => (quotedFrom? quote width cs).map fun (t, rest) => (image ++ t, rest)
    else if isQuotedPad c || isBreak c then
      match foldSpaces? isQuotedPad (c :: cs) with
      | none => none
      | some f => (quotedFrom? quote (f.width - 1) cs).map fun (t, rest) => (f.text ++ t, rest)
    else (quotedFrom? quote 0 cs).map fun (t, rest) => (c :: t, rest)

/-- **Reads the quoted scalar at the start of a text**, `none` if there is none or it does not
end. -/
def quoted? : Text → Option (Text × Text)
  | '\x27' :: cs => quotedFrom? '\x27' 0 cs
  | '\x22' :: cs => quotedFrom? '\x22' 0 cs
  | _ => none

/-! ## Plain scalars -/

/-- Whether a colon at the start of a text separates a key from its value. In a collection in
brackets it also does so in front of a comma or a bracket. -/
def isKeyMark (inBrackets : Bool) : Text → Bool
  | ':' :: cs =>
    endsIndicator cs || (inBrackets && cs.head?.any ",[]\x7b\x7d".toList.contains)
  | _ => false

/-- Whether a stretch of a plain scalar ends before a text. -/
def endsStretch (inBrackets : Bool) (t : Text) : Bool :=
  endsIndicator t || isKeyMark inBrackets t ||
    (inBrackets && t.head?.any ",?[]\x7b\x7d".toList.contains)

/-- Whether a plain scalar can start with a text: not with a character that has a meaning of its
own, except that a hyphen, and outside brackets a question mark or a colon, can if no blank
follows. -/
def startsPlain (inBrackets : Bool) : Text → Bool
  | [] => false
  | c :: cs =>
    if c == '-' || (!inBrackets && (c == '?' || c == ':')) then !endsIndicator cs
    else !endsIndicator (c :: cs) && !"?:,[]\x7b\x7d#&*!|>'\"%@`".toList.contains c

/-- What separates a stretch of a plain scalar from the next one, if the scalar goes on. Outside
brackets it goes on in the next line only from the column `floor` on. -/
def separation? (inBrackets : Bool) (floor : Nat) (t : Text) : Option Folded :=
  match foldSpaces? (· == ' ') t with
  | none => none
  | some f =>
    let crossed := f.width != (t.takeWhile (· == ' ')).length
    if f.width == 0 || f.rest.head? == some '#' || endsStretch inBrackets f.rest ||
        (crossed && !inBrackets && f.column < floor) then none
    else some f

/-- The plain scalar without its first `skip` characters, and the text after it. -/
def plainFrom (inBrackets : Bool) (floor : Nat) : (skip : Nat) → Text → Text × Text
  | _, [] => ([], [])
  | skip + 1, _ :: cs => plainFrom inBrackets floor skip cs
  | 0, c :: cs =>
    if endsStretch inBrackets (c :: cs) then
      match separation? inBrackets floor (c :: cs) with
      | none => ([], c :: cs)
      | some f =>
        let (t, rest) := plainFrom inBrackets floor (f.width - 1) cs
        (f.text ++ t, rest)
    else
      let (t, rest) := plainFrom inBrackets floor 0 cs
      (c :: t, rest)

/-- **Reads the plain scalar at the start of a text** where one can start. -/
def plain (inBrackets : Bool) (floor : Nat) (t : Text) : Text × Text :=
  plainFrom inBrackets floor 0 t

end BranchPolicy.Yaml
