import BranchPolicy.Glob.RegularExpression
import BranchPolicy.Proofs.Glob.Language

/-!
# The regular expression of a pattern

The regular expression of a pattern is a text, and what it matches is settled by how that text is read.
The reading below knows the notation alone and nothing of patterns.  It covers the notation that patterns
need: characters in a row, some of them behind a backslash, and repeated classes.

* `isSpecial`, `RegexMatches` — the notation, and the texts that a regular expression matches whole.
* `regexMatches_regex_append_iff` — the regular expression of an element is read as that element, whatever
  comes after it.
* **`regexMatches_regex_iff`** — the regular expression of a pattern matches what the pattern stands for.
* **`regexMatches_escaped_iff`** — and that of a text whose characters all stand for themselves matches
  this text alone.
-/

namespace BranchPolicy

open Character (isDecimalDigit)

/-- Whether a character does not stand for itself in a regular expression. -/
def isSpecial (c : Char) : Bool :=
  ".^$*+?{}[]\\|()".toList.contains c

/-- **The texts that a regular expression matches whole.**  A character stands for itself unless it is
special, and so does every character behind a backslash but the letters and digits; `\d+` stands for one or
more decimal digits, and `.+` for one or more characters of any kind. -/
inductive RegexMatches : Text → Text → Prop
  | nil : RegexMatches [] []
  | plain {c : Char} {r t : Text} (hplain : isSpecial c = false) (rest : RegexMatches r t) :
      RegexMatches (c :: r) (c :: t)
  | escaped {c : Char} {r t : Text} (hescaped : c.isAlphanum = false) (rest : RegexMatches r t) :
      RegexMatches ('\\' :: c :: r) (c :: t)
  | digits {ds r t : Text} (hsome : ds ≠ []) (hdigits : ∀ c ∈ ds, isDecimalDigit c = true)
      (rest : RegexMatches r t) : RegexMatches ('\\' :: 'd' :: '+' :: r) (ds ++ t)
  | anything {cs r t : Text} (hsome : cs ≠ []) (rest : RegexMatches r t) :
      RegexMatches ('.' :: '+' :: r) (cs ++ t)

/-- Only characters that stand for themselves behind a backslash are written with one. -/
lemma not_isAlphanum_of_isEscaped {c : Char} (hc : isEscaped c = true) : c.isAlphanum = false := by
  rw [isEscaped, List.contains_iff_mem] at hc
  rw [← Bool.not_eq_true']
  exact (@List.all_eq_true _ (fun c : Char => !c.isAlphanum) _).mp (by decide) c hc

/-- Every special character is written with a backslash. -/
lemma isEscaped_of_isSpecial {c : Char} (hc : isSpecial c = true) : isEscaped c = true := by
  rw [isSpecial, List.contains_iff_mem] at hc
  exact List.all_eq_true.mp (by decide) c hc

/-- **The regular expression of an element is read as that element**, whatever comes after it. -/
theorem regexMatches_regex_append_iff {token : GlobToken} {r t : Text} :
    RegexMatches (token.regex ++ r) t ↔
      ∃ u v, t = u ++ v ∧ token.Matches u ∧ RegexMatches r v := by
  cases token with
  | literal c =>
      have hiff : (∃ u v, t = u ++ v ∧ (GlobToken.literal c).Matches u ∧ RegexMatches r v) ↔
          ∃ v, t = c :: v ∧ RegexMatches r v := by
        simp [GlobToken.Matches]
      rw [hiff, GlobToken.regex]
      by_cases hc : isEscaped c = true
      · have halphanum := not_isAlphanum_of_isEscaped hc
        rw [if_pos hc, List.cons_append, List.cons_append, List.nil_append]
        constructor
        · intro h
          cases h with
          | plain hplain rest => exact absurd hplain (by decide)
          | escaped hescaped rest => exact ⟨_, rfl, rest⟩
          | digits hsome hdigits rest => exact absurd halphanum (by decide)
        · rintro ⟨v, rfl, hv⟩
          exact RegexMatches.escaped halphanum hv
      · have hplain : isSpecial c = false := Bool.eq_false_iff.mpr (mt isEscaped_of_isSpecial hc)
        rw [if_neg hc, List.cons_append, List.nil_append]
        constructor
        · intro h
          cases h with
          | plain hplain rest => exact ⟨_, rfl, rest⟩
          | escaped hescaped rest => exact absurd rfl hc
          | digits hsome hdigits rest => exact absurd rfl hc
          | anything hsome rest => exact absurd rfl hc
        · rintro ⟨v, rfl, hv⟩
          exact RegexMatches.plain hplain hv
  | digits =>
      constructor
      · intro h
        cases h with
        | plain hplain rest => exact absurd hplain (by decide)
        | escaped hescaped rest => exact absurd hescaped (by decide)
        | digits hsome hdigits rest => exact ⟨_, _, rfl, ⟨hsome, hdigits⟩, rest⟩
      · rintro ⟨u, v, rfl, hu, hv⟩
        exact RegexMatches.digits hu.1 hu.2 hv
  | anything =>
      constructor
      · intro h
        cases h with
        | plain hplain rest => exact absurd hplain (by decide)
        | anything hsome rest => exact ⟨_, _, rfl, hsome, rest⟩
      · rintro ⟨u, v, rfl, hu, hv⟩
        exact RegexMatches.anything hu hv

/-- **The regular expression of a pattern matches what the pattern stands for.** -/
theorem regexMatches_regex_iff {pattern t : Text} :
    RegexMatches (Glob.regex pattern) t ↔ Glob.StandsFor pattern t := by
  rw [Glob.standsFor_iff_spells, Glob.regex]
  induction Glob.tokens pattern generalizing t with
  | nil =>
      rw [List.flatMap_nil, spells_nil_iff]
      constructor
      · rintro ⟨⟩
        rfl
      · rintro rfl
        exact RegexMatches.nil
  | cons token tokens ih =>
      rw [List.flatMap_cons, regexMatches_regex_append_iff, spells_cons_iff]
      simp only [ih]

/-- The regular expression of a text in which wildcards, too, stand for themselves. -/
def escaped (t : Text) : Text :=
  t.flatMap fun c => (GlobToken.literal c).regex

/-- **An escaped text matches itself alone**, whatever special characters and wildcards are in it. -/
theorem regexMatches_escaped_iff {value t : Text} : RegexMatches (escaped value) t ↔ t = value := by
  induction value generalizing t with
  | nil =>
      constructor
      · rintro ⟨⟩
        rfl
      · rintro rfl
        exact RegexMatches.nil
  | cons c cs ih =>
      rw [escaped, List.flatMap_cons, ← escaped, regexMatches_regex_append_iff]
      simp [GlobToken.Matches, ih]

end BranchPolicy
