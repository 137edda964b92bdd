import BranchPolicy.Workflow.Inputs
import BranchPolicy.Yaml.Decimal
import BranchPolicy.Yaml.Node

/-!
# A reader of config files

A plain scalar of a document stands for a value by its form, and a quoted one for its content. This
is one reader among others, for the part of YAML that config files need: a timestamp is read as a
text, and of a number with a point all decimal digits are kept. What is known of config files in
general is known for every reader.

* `ConfigFile.plainValue?` — the value of a plain scalar.
* `ConfigFile.value?` — the value of a node.
* `ConfigFile.parse` — reads a config file.
-/

namespace BranchPolicy

namespace ConfigFile

/-! ## Words -/

/-- The words for null. -/
def nullWords : List Text :=
  ["", "~", "null", "Null", "NULL"].map (·.toList)

/-- The words for true. -/
def trueWords : List Text :=
  ["true", "True", "TRUE", "yes", "Yes", "YES", "on", "On", "ON"].map (·.toList)

/-- The words for false. -/
def falseWords : List Text :=
  ["false", "False", "FALSE", "no", "No", "NO", "off", "Off", "OFF"].map (·.toList)

/-! ## Numbers

Underscores may stand between the digits of a number. An integer is binary after `0b`, hexadecimal
after `0x` and octal after any other leading zero. Groups of digits after colons count sixtieths of
the group before. -/

/-- A text without the underscores between its digits. -/
def dropUnderscores (t : Text) : Text :=
  t.filter (· != '_')

/-- Whether a character is a hexadecimal digit. -/
def isHexDigit (c : Char) : Bool :=
  (Yaml.hexDigit? c).isSome

/-- Whether each character of a text is a digit, as `isDigit` has it, or an underscore, and one at
least is a digit. -/
def isNumeral (isDigit : Char → Bool) (t : Text) : Bool :=
  t.any isDigit && t.all fun c => isDigit c || c == '_'

/-- The sign of a number, if it has one, and what follows. -/
def signed : Text → Option Char × Text
  | '-' :: cs => (some '-', cs)
  | '+' :: cs => (some '+', cs)
  | cs => (none, cs)

/-- The groups of a text between its colons. -/
def groups : Text → List Text
  | [] => [[]]
  | ':' :: cs => [] :: groups cs
  | c :: cs =>
    match groups cs with
    | [] => [[c]]
    | g :: gs => (c :: g) :: gs

/-- Whether a group counts sixtieths: it has one or two digits and is below sixty. -/
def isSixtieth : Text → Bool
  | [d] => d.isDigit
  | [d, e] => '0' ≤ d && d ≤ '5' && e.isDigit
  | _ => false

/-- The number of the groups after the first one, each sixty times the next. -/
def sixtiethsOf (first : Nat) (gs : List Text) : Nat :=
  gs.foldl (fun n g => 60 * n + naturalOf 10 g) first

/-- The natural number that a text denotes. -/
def natural? : Text → Option Nat
  | '0' :: 'b' :: ds =>
    if isNumeral (fun c => c == '0' || c == '1') ds then some (naturalOf 2 (dropUnderscores ds))
    else none
  | '0' :: 'x' :: ds =>
    if isNumeral isHexDigit ds then some (naturalOf 16 (dropUnderscores ds)) else none
  | '0' :: ds =>
    if ds.all fun c => ('0' ≤ c && c ≤ '7') || c == '_' then
      some (naturalOf 8 (dropUnderscores ds))
    else none
  | t =>
    match groups t with
    | first :: rest =>
      if first.head?.any Char.isDigit && isNumeral Char.isDigit first && rest.all isSixtieth then
        some (sixtiethsOf (naturalOf 10 (dropUnderscores first)) rest)
      else none
    | [] => none

/-- The integer that a text denotes, with an optional sign. -/
def integer? (t : Text) : Option Int :=
  let (sign, digits) := signed t
  (natural? digits).map fun n => if sign == some '-' then -Int.ofNat n else Int.ofNat n

/-- The power of ten that a text names after the digits of a number: none, or digits after `e` and
a sign. -/
def power? : Text → Option Int
  | [] => some 0
  | e :: t =>
    let (sign, digits) := signed t
    if (e == 'e' || e == 'E') && sign.isSome && !digits.isEmpty && digits.all Char.isDigit then
      let n := Int.ofNat (naturalOf 10 digits)
      some (if sign == some '-' then -n else n)
    else none

/-- The number with a point that a text denotes. Before the point there are digits, after an
optional sign, or there is nothing at all; then digits must follow it. -/
def decimal? (t : Text) : Option Decimal :=
  let (sign, digits) := signed t
  let isNumeric := fun c => c.isDigit || c == '_'
  let whole := digits.takeWhile isNumeric
  match digits.dropWhile isNumeric with
  | '.' :: rest =>
    let fraction := rest.takeWhile isNumeric
    if whole.head?.any Char.isDigit ||
        (whole.isEmpty && sign.isNone && fraction.head?.any Char.isDigit) then
      (power? (rest.dropWhile isNumeric)).map
        (Decimal.ofDigits (sign == some '-') (dropUnderscores whole) (dropUnderscores fraction))
    else none
  | _ => none

/-! ## Values -/

/-- The text that stands for the value of its table. -/
def valueMark : Text := ['=']

/-- The text of a key that takes over the entries of other tables. -/
def mergeMark : Text := ['<', '<']

/-- **The value of a plain scalar**: what it is a word for or a number it denotes, and otherwise its
text. The marks for values and for taking over are no values. -/
def plainValue? (t : Text) : Option InputValue :=
  if t = valueMark ∨ t = mergeMark then none
  else if nullWords.contains t then some .null
  else if trueWords.contains t then some (.flag true)
  else if falseWords.contains t then some (.flag false)
  else
    match integer? t, decimal? t with
    | some n, _ => some (.integer n)
    | none, some d => some (.other (some d.render) (d.digits != 0))
    | none, none => some (.text t)

/-- The value of a key, which is a scalar. -/
def key? : Yaml.Node → Option InputValue
  | .plain t => if t = valueMark then some (.text t) else plainValue? t
  | .quoted t => some (.text t)
  | _ => none

mutual

/-- **The value of a node**, `none` if a key in it is no scalar or a mark is out of place. -/
def value? : Yaml.Node → Option InputValue
  | .plain t => plainValue? t
  | .quoted t => some (.text t)
  | .list items => (values? items).map .list
  | .table entries => (entries? entries).map .table

/-- The values of the items of a list. -/
def values? : List Yaml.Node → Option (List InputValue)
  | [] => some []
  | item :: items => do return (← value? item) :: (← values? items)

/-- The keys and values of the entries of a table. -/
def entries? : List (Yaml.Node × Yaml.Node) → Option InputMapping
  | [] => some []
  | (key, value) :: entries => do return (← key? key, ← value? value) :: (← entries? entries)

end

/-! ## Files -/

/-- What a document holds for a run. -/
def ofNode? : Yaml.Node → Option ConfigFile
  | .table entries => (entries? entries).map .mapping
  | node => (value? node).map fun v => if v = .null then .empty else .other

/-- **Reads a config file**, `none` if it is malformed. -/
def parse : ConfigReader := fun contents =>
  (Yaml.read? contents).bind ofNode?

end ConfigFile

end BranchPolicy
