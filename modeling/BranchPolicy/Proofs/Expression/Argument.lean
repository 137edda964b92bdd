import BranchPolicy.Expression.Argument
import Mathlib.Tactic.Lemma

/-!
# What the text of an argument denotes

* `Denotes` — a text denotes a value of a kind.
* `readNumber_eq_some_iff` — which texts are read as which numbers.
* `Value.kind`, `kind_eq_of_value` — an argument that has a value has one of its own kind.
* **`ofText_denotes_iff`** — reading an argument and asking for its value gives what the text denotes.
-/

namespace BranchPolicy

/-- **A text denotes a value.**  A number is a non-empty sequence of the digits 0 to 9 that is not too
long to be read and whose value is not too large; a string is any text between two equal quotes. -/
inductive Denotes : Kind → Text → Value → Prop
  | number {t : Text} (hdigits : isDigits t = true) (hlength : t.length ≤ mostDigits)
      (hvalue : digitsValue t ≤ largestNumber) : Denotes .number t (.number (digitsValue t))
  | string {quote : Char} (hquote : Text.isQuote quote = true) (content : Text) :
      Denotes .string (quote :: (content ++ [quote])) (.string content)

/-- A text is read as a number when it is one. -/
lemma readNumber_eq_some_iff {t : Text} {n : Nat} :
    readNumber t = .ok (some n) ↔
      isDigits t = true ∧ t.length ≤ mostDigits ∧ digitsValue t ≤ largestNumber ∧
        n = digitsValue t := by
  unfold readNumber
  constructor
  · intro h
    split at h
    · exact absurd h (by simp)
    · next hdigits =>
        split at h
        · exact absurd h (by simp)
        · next hlength =>
            split at h
            · next hvalue =>
                obtain rfl : digitsValue t = n := by simpa using h
                exact ⟨by simpa using hdigits, by omega, hvalue, rfl⟩
            · exact absurd h (by simp)
  · rintro ⟨hdigits, hlength, hvalue, rfl⟩
    rw [hdigits, if_neg (by simp), if_neg (by omega), if_pos hvalue]

lemma readNumber_eq_overlong {t : Text} (hdigits : isDigits t = true)
    (hlong : mostDigits < t.length) : readNumber t = .error .overlong := by
  rw [readNumber, hdigits, if_neg (by simp), if_pos hlong]

lemma value_number_eq_some_iff {t : Text} {v : Value} :
    (Argument.number t).value = .ok (some v) ↔ ∃ n, readNumber t = .ok (some n) ∧ v = .number n := by
  rw [Argument.value]
  cases readNumber t with
  | error e => simp [Except.map]
  | ok n => cases n <;> simp [Except.map, eq_comm]

/-- A string value is passed on by the argument that is written with it and by no other. -/
lemma value_eq_string_iff {a : Argument} {s : Text} :
    a.value = .ok (some (.string s)) ↔ a = .string s := by
  cases a with
  | string content => simp [Argument.value]
  | number digits => simp [value_number_eq_some_iff]

/-- The kind of a value. -/
def Value.kind : Value → Kind
  | .string _ => .string
  | .number _ => .number

lemma Value.exists_eq_string {v : Value} (h : v.kind = .string) : ∃ s, v = .string s := by
  cases v with
  | string s => exact ⟨s, rfl⟩
  | number n => exact absurd h (by simp [kind])

lemma Value.exists_eq_number {v : Value} (h : v.kind = .number) : ∃ n, v = .number n := by
  cases v with
  | string s => exact absurd h (by simp [kind])
  | number n => exact ⟨n, rfl⟩

lemma kind_eq_of_value {a : Argument} {v : Value} (h : a.value = .ok (some v)) :
    v.kind = a.kind := by
  cases a with
  | string content =>
      obtain rfl : Value.string content = v := by simpa [Argument.value] using h
      rfl
  | number digits =>
      obtain ⟨n, -, rfl⟩ := value_number_eq_some_iff.mp h
      rfl

lemma not_isQuote_of_isDigits {c : Char} {t : Text} (h : isDigits (c :: t) = true) :
    Text.isQuote c = false := by
  simp only [isDigits, List.all_cons, Bool.and_eq_true] at h
  have hsingle : c ≠ Text.singleQuote := by
    rintro rfl
    exact absurd h.2.1 (by decide)
  have hdouble : c ≠ Text.doubleQuote := by
    rintro rfl
    exact absurd h.2.1 (by decide)
  simp [Text.isQuote, hsingle, hdouble]

/-- A text between two equal quotes is read as the string between them. -/
lemma ofText_quoted {quote : Char} (hquote : Text.isQuote quote = true) (content : Text) :
    Argument.ofText (quote :: (content ++ [quote])) = .string content := by
  simp [Argument.ofText, hquote]

lemma ofText_of_isDigits {t : Text} (h : isDigits t = true) : Argument.ofText t = .number t := by
  cases t with
  | nil => rfl
  | cons c t => simp [Argument.ofText, not_isQuote_of_isDigits h]

lemma exists_of_ofText_eq_string {t content : Text} (h : Argument.ofText t = .string content) :
    ∃ quote, Text.isQuote quote = true ∧ t = quote :: (content ++ [quote]) := by
  cases t with
  | nil => exact absurd h (by simp [Argument.ofText])
  | cons quote t =>
      rw [Argument.ofText] at h
      split at h
      · next hquoted =>
          obtain ⟨hquote, hlast⟩ := Bool.and_eq_true_iff.mp hquoted
          obtain ⟨u, rfl⟩ := List.getLast?_eq_some_iff.mp (beq_iff_eq.mp hlast)
          obtain rfl : u = content := by simpa using h
          exact ⟨quote, hquote, rfl⟩
      · exact absurd h (by simp)

lemma eq_of_ofText_eq_number {t digits : Text} (h : Argument.ofText t = .number digits) :
    digits = t := by
  cases t with
  | nil => exact (Argument.number.inj h).symm
  | cons c t =>
      rw [Argument.ofText] at h
      split at h
      · exact absurd h (by simp)
      · exact (Argument.number.inj h).symm

/-- **The argument that a text is read as has a kind and a value exactly when the text denotes
them.** -/
theorem ofText_denotes_iff {t : Text} {kind : Kind} {v : Value} :
    ((Argument.ofText t).kind = kind ∧ (Argument.ofText t).value = .ok (some v)) ↔
      Denotes kind t v := by
  constructor
  · rintro ⟨rfl, hvalue⟩
    cases hread : Argument.ofText t with
    | string content =>
        obtain ⟨quote, hquote, rfl⟩ := exists_of_ofText_eq_string hread
        rw [hread] at hvalue
        obtain rfl : Value.string content = v := by simpa [Argument.value] using hvalue
        exact Denotes.string hquote content
    | number digits =>
        rw [hread, eq_of_ofText_eq_number hread] at hvalue
        obtain ⟨n, hnumber, rfl⟩ := value_number_eq_some_iff.mp hvalue
        obtain ⟨hdigits, hlength, hle, rfl⟩ := readNumber_eq_some_iff.mp hnumber
        exact Denotes.number hdigits hlength hle
  · rintro (⟨hdigits, hlength, hle⟩ | ⟨hquote, content⟩)
    · rw [ofText_of_isDigits hdigits]
      refine ⟨rfl, value_number_eq_some_iff.mpr ⟨_, ?_, rfl⟩⟩
      exact readNumber_eq_some_iff.mpr ⟨hdigits, hlength, hle, rfl⟩
    · rw [ofText_quoted hquote]
      exact ⟨rfl, rfl⟩

end BranchPolicy
