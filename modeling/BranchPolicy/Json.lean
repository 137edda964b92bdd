import BranchPolicy.Text.Basic

/-!
# JSON documents

Documents of texts, lists and objects, printed over several lines with two blanks for each level.
The fields of an object keep their order, and every character outside printable ASCII is escaped.

* `Json` — a document.
* `Json.quote` — a text as a JSON string.
* `Json.render` — a document as text.
-/

namespace BranchPolicy

/-- A document of texts, lists and objects. -/
inductive Json where
  | text (t : Text)
  | list (items : List Json)
  | object (fields : List (Text × Json))

namespace Json

/-! ## Strings -/

/-- A number below 65536 as an escape of four hexadecimal digits. -/
def escapeUnit (n : Nat) : Text :=
  let digits := Nat.toDigits 16 n
  "\\u".toList ++ List.replicate (4 - digits.length) '0' ++ digits

/-- A code point as one escape, or as a pair of them if it needs more than 16 bits. -/
def escapeCode (n : Nat) : Text :=
  if n < 0x10000 then escapeUnit n
  else
    let offset := n - 0x10000
    escapeUnit (0xD800 + offset / 0x400) ++ escapeUnit (0xDC00 + offset % 0x400)

/-- A character as it stands in a JSON string. -/
def escape (c : Char) : Text :=
  match c with
  | '\x22' => "\\\"".toList
  | '\\' => "\\\\".toList
  | '\n' => "\\n".toList
  | '\r' => "\\r".toList
  | '\t' => "\\t".toList
  | '\x08' => "\\b".toList
  | '\x0c' => "\\f".toList
  | c => if ' ' ≤ c && c ≤ '~' then [c] else escapeCode c.toNat

/-- A text as a JSON string. -/
def quote (t : Text) : Text :=
  '\x22' :: (t.flatMap escape ++ ['\x22'])

/-! ## Documents -/

/-- A line break and the blanks that start a line at the given depth. -/
def lineStart (depth : Nat) : Text :=
  '\n' :: List.replicate (2 * depth) ' '

mutual

/-- A document as text, the lines after its first one indented to the given depth at least. -/
def render (depth : Nat) : Json → Text
  | .text t => quote t
  | .list [] => "[]".toList
  | .list (x :: xs) =>
    '[' :: (lineStart (depth + 1) ++ render (depth + 1) x ++ renderItems (depth + 1) xs ++
      lineStart depth ++ [']'])
  | .object [] => ['\x7b', '\x7d']
  | .object ((key, x) :: fields) =>
    '\x7b' :: (lineStart (depth + 1) ++ quote key ++ ": ".toList ++ render (depth + 1) x ++
      renderFields (depth + 1) fields ++ lineStart depth ++ ['\x7d'])

/-- The items of a list after its first. -/
def renderItems (depth : Nat) : List Json → Text
  | [] => []
  | x :: xs => ',' :: (lineStart depth ++ render depth x ++ renderItems depth xs)

/-- The fields of an object after its first. -/
def renderFields (depth : Nat) : List (Text × Json) → Text
  | [] => []
  | (key, x) :: fields =>
    ',' :: (lineStart depth ++ quote key ++ ": ".toList ++ render depth x ++
      renderFields depth fields)

end

end Json

end BranchPolicy
