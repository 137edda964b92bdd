import BranchPolicy.Text.Quoted
import Mathlib.Data.List.DropRight
import Mathlib.Tactic.Lemma

/-!
# Trimming as a decomposition

`Text.trim` is computed by two scans, but what every later argument needs is the picture behind
it: a text is a blank, then its trimmed part, then another blank, and the trimmed part neither
starts nor ends with a blank character.

* `exists_eq_append_trim_append` — the decomposition.
* `trim_append_append` — blanks put around a text do not change what trimming leaves.
* `trim_eq_self` — a text with no blank character at either end is its own trimmed part; hence
  `trim_trim`.
* `not_blank_of_head?_trim`, `not_blank_of_getLast?_trim` — the two ends of a trimmed text.
* `mem_trim_iff`, `countP_trim`, `count_trim` — what is not blank survives trimming.

A blank character is neither a quote nor a parenthesis nor a connective mark, which is recorded
here once (`ne_of_isBlankChar`), because every scanner of the library is indifferent to blanks for
this one reason.
-/

namespace BranchPolicy.Text

/-! ## Blank texts -/

lemma isBlank_cons (c : Char) (t : Text) : isBlank (c :: t) = (isBlankChar c && isBlank t) :=
  List.all_cons

lemma ne_nil_of_not_isBlank {t : Text} (h : isBlank t = false) : t ≠ [] := by
  rintro rfl
  exact Bool.noConfusion h

lemma ne_of_isBlankChar {c d : Char} (hc : isBlankChar c = true) (hd : isBlankChar d = false) :
    c ≠ d := by
  rintro rfl
  rw [hc] at hd
  exact Bool.noConfusion hd

lemma isQuote_of_isBlankChar {c : Char} (h : isBlankChar c = true) : isQuote c = false := by
  have hs : c ≠ singleQuote := ne_of_isBlankChar h (by decide)
  have hd : c ≠ doubleQuote := ne_of_isBlankChar h (by decide)
  simp [isQuote, hs, hd]

lemma not_isBlankChar_of_isQuote {c : Char} (h : isQuote c = true) : isBlankChar c = false := by
  rw [Bool.eq_false_iff]
  intro hblank
  rw [isQuote_of_isBlankChar hblank] at h
  exact Bool.noConfusion h

/-! ## One end at a time -/

lemma trimStart_append_of_isBlank {b : Text} (hb : isBlank b = true) (t : Text) :
    trimStart (b ++ t) = trimStart t :=
  List.dropWhile_append_of_pos (isBlank_iff.mp hb)

lemma trimStart_cons_of_not_blank {c : Char} (h : isBlankChar c = false) (t : Text) :
    trimStart (c :: t) = c :: t := by
  rw [trimStart, List.dropWhile_cons_of_neg (by simp [h])]

lemma trimEnd_append_of_isBlank {b : Text} (hb : isBlank b = true) (t : Text) :
    trimEnd (t ++ b) = trimEnd t := by
  have hrev : ∀ c ∈ b.reverse, isBlankChar c = true :=
    fun c hc => isBlank_iff.mp hb c (List.mem_reverse.mp hc)
  rw [trimEnd, trimEnd, List.reverse_append, List.dropWhile_append_of_pos hrev]

lemma trimEnd_eq_self {t : Text} (h : ∀ c ∈ t.getLast?, isBlankChar c = false) : trimEnd t = t := by
  refine List.rdropWhile_eq_self_iff.mpr fun hne => ?_
  rw [h _ (List.getLast_mem_getLast? hne)]
  exact Bool.false_ne_true

/-- A text is a blank followed by what is left after dropping its leading blank characters. -/
lemma exists_eq_append_trimStart (t : Text) : ∃ b, isBlank b = true ∧ t = b ++ trimStart t :=
  ⟨t.takeWhile isBlankChar, isBlank_iff.mpr fun _ hc => List.mem_takeWhile_imp hc,
    List.takeWhile_append_dropWhile.symm⟩

lemma exists_eq_trimEnd_append (t : Text) : ∃ b, isBlank b = true ∧ t = trimEnd t ++ b :=
  ⟨t.rtakeWhile isBlankChar, isBlank_iff.mpr fun _ hc => List.mem_rtakeWhile_imp hc,
    List.rdropWhile_append_rtakeWhile.symm⟩

/-! ## Both ends -/

/-- **A text is its trimmed part between two blanks.** -/
theorem exists_eq_append_trim_append (t : Text) :
    ∃ a b, isBlank a = true ∧ isBlank b = true ∧ t = a ++ (trim t ++ b) := by
  obtain ⟨a, ha, hta⟩ := exists_eq_append_trimStart t
  obtain ⟨b, hb, htb⟩ := exists_eq_trimEnd_append (trimStart t)
  exact ⟨a, b, ha, hb, by rw [trim, ← htb, ← hta]⟩

lemma trim_append_left {b : Text} (hb : isBlank b = true) (t : Text) : trim (b ++ t) = trim t := by
  rw [trim, trim, trimStart_append_of_isBlank hb]

lemma trim_append_right {b : Text} (hb : isBlank b = true) (t : Text) :
    trim (t ++ b) = trim t := by
  induction t with
  | nil =>
      rw [List.nil_append, trim_eq_nil_iff.mpr hb]
      rfl
  | cons c t ih =>
      cases hc : isBlankChar c with
      | true =>
          have hone : isBlank [c] = true := by simp [isBlank, hc]
          rw [List.cons_append, ← List.singleton_append, trim_append_left hone, ih,
            ← List.singleton_append, trim_append_left hone]
      | false =>
          rw [trim, trim, List.cons_append, trimStart_cons_of_not_blank hc,
            trimStart_cons_of_not_blank hc, ← List.cons_append, trimEnd_append_of_isBlank hb]

/-- **Blanks around a text do not change what trimming leaves.** -/
theorem trim_append_append {a b : Text} (ha : isBlank a = true) (hb : isBlank b = true)
    (t : Text) : trim (a ++ (t ++ b)) = trim t := by
  rw [trim_append_left ha, trim_append_right hb]

/-- **A text with no blank character at either end is its own trimmed part.** -/
theorem trim_eq_self {t : Text} (hhead : ∀ c ∈ t.head?, isBlankChar c = false)
    (hlast : ∀ c ∈ t.getLast?, isBlankChar c = false) : trim t = t := by
  cases t with
  | nil => rfl
  | cons c t =>
      rw [trim, trimStart_cons_of_not_blank (hhead c rfl), trimEnd_eq_self hlast]

/-- The first character that trimming leaves is not blank. -/
lemma not_blank_of_head?_trim {t : Text} {c : Char} (h : c ∈ (trim t).head?) :
    isBlankChar c = false := by
  obtain ⟨b, -, hb⟩ := exists_eq_trimEnd_append (trimStart t)
  have hhead : c ∈ (trimStart t).head? := by
    rw [hb, List.head?_append, ← trim, Option.mem_def.mp h]
    rfl
  have hnot := List.head?_dropWhile_not isBlankChar t
  rw [← trimStart, Option.mem_def.mp hhead] at hnot
  simpa using hnot

/-- The last character that trimming leaves is not blank. -/
lemma not_blank_of_getLast?_trim {t : Text} {c : Char} (h : c ∈ (trim t).getLast?) :
    isBlankChar c = false := by
  have hne : (trimStart t).rdropWhile isBlankChar ≠ [] := by
    intro hnil
    rw [trim, trimEnd, ← List.rdropWhile, hnil] at h
    exact absurd h (by simp)
  have hlast : c = ((trimStart t).rdropWhile isBlankChar).getLast hne := by
    have := List.getLast?_eq_some_getLast hne
    rw [trim, trimEnd, ← List.rdropWhile, this] at h
    exact (Option.some.inj h).symm
  simpa [hlast] using List.rdropWhile_last_not isBlankChar (trimStart t) hne

@[simp] lemma trim_trim (t : Text) : trim (trim t) = trim t :=
  trim_eq_self (fun _ h => not_blank_of_head?_trim h) fun _ h => not_blank_of_getLast?_trim h

lemma isBlank_trim (t : Text) : isBlank (trim t) = isBlank t := by
  rw [Bool.eq_iff_iff, ← trim_eq_nil_iff, trim_trim, trim_eq_nil_iff]

lemma mem_of_mem_trim {c : Char} {t : Text} (hc : c ∈ trim t) : c ∈ t := by
  obtain ⟨a, b, -, -, h⟩ := exists_eq_append_trim_append t
  rw [h]
  exact List.mem_append_right a (List.mem_append_left b hc)

lemma not_mem_of_isBlank {c : Char} (hc : isBlankChar c = false) {t : Text} (ht : isBlank t = true) :
    c ∉ t :=
  fun hmem => ne_of_isBlankChar (isBlank_iff.mp ht c hmem) hc rfl

/-- A character that is not blank survives trimming. -/
lemma mem_trim_iff {c : Char} (hc : isBlankChar c = false) (t : Text) : c ∈ trim t ↔ c ∈ t := by
  obtain ⟨a, b, ha, hb, h⟩ := exists_eq_append_trim_append t
  refine ⟨mem_of_mem_trim, fun hmem => ?_⟩
  rw [h] at hmem
  simpa [not_mem_of_isBlank hc ha, not_mem_of_isBlank hc hb] using hmem

/-- So do the characters of a class without blank ones, each as often as it occurs. -/
lemma countP_trim {p : Char → Bool} (hp : ∀ c, isBlankChar c = true → p c = false) (t : Text) :
    (trim t).countP p = t.countP p := by
  have hblank : ∀ {b : Text}, isBlank b = true → b.countP p = 0 := by
    intro b hb
    rw [List.countP_eq_zero]
    intro c hc
    rw [hp c (isBlank_iff.mp hb c hc)]
    exact Bool.false_ne_true
  obtain ⟨a, b, ha, hb, h⟩ := exists_eq_append_trim_append t
  conv_rhs => rw [h]
  rw [List.countP_append, List.countP_append, hblank ha, hblank hb]
  omega

/-- So does each occurrence of a character. -/
lemma count_trim {c : Char} (hc : isBlankChar c = false) (t : Text) : (trim t).count c = t.count c :=
  countP_trim (fun _ hd => beq_false_of_ne (ne_of_isBlankChar hd hc)) t

end BranchPolicy.Text
