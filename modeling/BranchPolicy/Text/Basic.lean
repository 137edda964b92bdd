/-!
# Texts

A text is a list of characters. Every length, index and position of the library counts
characters, and every function on texts is a recursion on the list.

* `Text` — expressions, names, arguments and branch names.
* `Text.isBlankChar` — the characters that trimming removes.
* `Text.isBlank` — a text of blank characters only.
* `Text.trim` — a text without the blank characters at its two ends; `trim_eq_nil_iff` says when
  nothing is left.
-/

namespace BranchPolicy

/-- A finite sequence of characters. -/
abbrev Text := List Char

namespace Text

/-! ## Blank characters

The control characters from tabulator to carriage return and from file separator to unit
separator, the space, the next-line character and the spaces of the general punctuation and CJK
blocks are blank. The zero-width space and the byte order mark are not. -/

/-- Whether a character is blank. -/
def isBlankChar (c : Char) : Bool :=
  let n := c.toNat
  (0x09 ≤ n && n ≤ 0x0D) || (0x1C ≤ n && n ≤ 0x20) || n == 0x85 || n == 0xA0 || n == 0x1680 ||
    (0x2000 ≤ n && n ≤ 0x200A) || n == 0x2028 || n == 0x2029 || n == 0x202F || n == 0x205F ||
    n == 0x3000

/-- Whether every character of a text is blank; the empty text is blank. -/
def isBlank (t : Text) : Bool :=
  t.all isBlankChar

/-! ## Trimming -/

/-- A text without its leading blank characters. -/
def trimStart (t : Text) : Text :=
  t.dropWhile isBlankChar

/-- A text without its trailing blank characters. -/
def trimEnd (t : Text) : Text :=
  (t.reverse.dropWhile isBlankChar).reverse

/-- A text without its leading and trailing blank characters. -/
def trim (t : Text) : Text :=
  trimEnd (trimStart t)

/-- A text is blank when each of its characters is. -/
theorem isBlank_iff {t : Text} : isBlank t = true ↔ ∀ c ∈ t, isBlankChar c = true := by
  simp [isBlank]

/-- Dropping the leading blank characters leaves nothing exactly of a blank text. -/
theorem trimStart_eq_nil_iff {t : Text} : trimStart t = [] ↔ isBlank t = true := by
  induction t with
  | nil => simp [trimStart, isBlank]
  | cons c cs ih =>
    rw [trimStart] at ih ⊢
    by_cases h : isBlankChar c = true
    · rw [List.dropWhile_cons_of_pos h, ih, isBlank, isBlank, List.all_cons, h, Bool.true_and]
    · simp [List.dropWhile_cons_of_neg h, isBlank, h]

/-- Dropping the trailing blank characters leaves nothing exactly of a blank text. -/
theorem trimEnd_eq_nil_iff {t : Text} : trimEnd t = [] ↔ isBlank t = true := by
  rw [trimEnd, List.reverse_eq_nil_iff, ← trimStart, trimStart_eq_nil_iff, isBlank, isBlank,
    List.all_reverse]

/-- What is blank without its leading blank characters is blank. -/
theorem isBlank_trimStart {t : Text} : isBlank (trimStart t) = isBlank t := by
  induction t with
  | nil => rfl
  | cons c cs ih =>
    by_cases h : isBlankChar c = true
    · simpa [trimStart, isBlank, h] using ih
    · simp [trimStart, h]

/-- **Trimming leaves nothing exactly of a blank text.** -/
theorem trim_eq_nil_iff {t : Text} : trim t = [] ↔ isBlank t = true := by
  rw [trim, trimEnd_eq_nil_iff, isBlank_trimStart]

end Text

end BranchPolicy
