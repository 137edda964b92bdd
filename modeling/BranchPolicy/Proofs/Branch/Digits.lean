import BranchPolicy.Proofs.Branch.Search
import BranchPolicy.Proofs.Evaluation.WrittenCall

/-!
# Two kinds of digits

The wildcard `#` stands for decimal digits of any script, and the functions that ask for digits at places of
the name go by 0 to 9 alone.  On a branch name without digits of other scripts the two say the same, and on
any other name the former say more.

* `IsForeignDigit` — a decimal digit that is none of 0 to 9.
* `standsFor_number_iff` — what the pattern `#` stands for; `equals_number_iff`, `startsWith_number_iff`,
  `endsWith_number_iff`, `includes_number_iff` — where it is found.
* `isDigitSection_iff`, `startsWithDigit_iff`, `endsWithDigit_iff`, `exists_isDigitAt_iff` — the digits at
  places of the name.
* `SameDigits` — the wildcard and the functions say the same about a name.
* **`number_or_foreign_iff`** — what the wildcard adds, and on which names that is nothing.
* **`not_sameDigits_arabic`** — a name of one Arabic digit, about which they differ.
-/

namespace BranchPolicy

open Character (isDecimalDigit)
open Glob (StandsFor)

/-! ## Digits of other scripts -/

/-- A decimal digit of a script that does not write 0 to 9. -/
def IsForeignDigit (c : Char) : Prop :=
  isDecimalDigit c = true ∧ c.isDigit = false

instance : DecidablePred IsForeignDigit := fun _ => inferInstanceAs (Decidable (_ ∧ _))

lemma isDecimalDigit_of_isDigit {c : Char} (h : c.isDigit = true) : isDecimalDigit c = true := by
  rw [Char.isDigit_iff_toNat] at h
  refine List.any_eq_true.mpr ⟨0x0030, List.mem_cons_self, ?_⟩
  rw [Bool.and_eq_true, decide_eq_true_eq, decide_eq_true_eq]
  exact h

lemma isDecimalDigit_iff {c : Char} :
    isDecimalDigit c = true ↔ c.isDigit = true ∨ IsForeignDigit c := by
  constructor
  · intro h
    cases hc : c.isDigit with
    | true => exact Or.inl rfl
    | false => exact Or.inr ⟨h, hc⟩
  · rintro (h | h)
    · exact isDecimalDigit_of_isDigit h
    · exact h.1

lemma IsForeignDigit.not_isDigit {c : Char} (h : IsForeignDigit c) : ¬ c.isDigit = true :=
  Bool.eq_false_iff.mp h.2

/-! ## The wildcard -/

/-- The pattern `#` stands for one or more decimal digits. -/
lemma standsFor_number_iff {t : Text} :
    StandsFor ['#'] t ↔ t ≠ [] ∧ ∀ c ∈ t, isDecimalDigit c = true := by
  have htokens : Glob.tokens ['#'] = [.digits] := rfl
  rw [Glob.standsFor_iff_spells, htokens, spells_cons_iff]
  simp only [spells_nil_iff]
  constructor
  · rintro ⟨u, v, rfl, hu, rfl⟩
    rwa [List.append_nil]
  · intro ht
    exact ⟨t, [], (List.append_nil t).symm, ht, rfl⟩

namespace Branch

variable {branch : Text}

lemma equals_number_iff (hne : branch ≠ []) :
    equals branch ['#'] = true ↔ ∀ c ∈ branch, isDecimalDigit c = true := by
  rw [equals_iff hne, standsFor_number_iff, and_iff_right hne]

lemma startsWith_number_iff (hne : branch ≠ []) :
    startsWith branch ['#'] = true ↔ ∃ c ∈ branch.head?, isDecimalDigit c = true := by
  rw [startsWith_iff hne]
  simp only [standsFor_number_iff]
  constructor
  · rintro ⟨part, ⟨rest, rfl⟩, hpart, hdigits⟩
    obtain ⟨c, part, rfl⟩ := List.exists_cons_of_ne_nil hpart
    exact ⟨c, rfl, hdigits c List.mem_cons_self⟩
  · rintro ⟨c, hc, hdigit⟩
    obtain ⟨rest, rfl⟩ := List.head?_eq_some_iff.mp hc
    exact ⟨[c], ⟨rest, rfl⟩, List.cons_ne_nil _ _, by simpa using hdigit⟩

lemma endsWith_number_iff (hne : branch ≠ []) :
    endsWith branch ['#'] = true ↔ ∃ c ∈ branch.getLast?, isDecimalDigit c = true := by
  rw [endsWith_iff hne]
  simp only [standsFor_number_iff]
  constructor
  · rintro ⟨part, ⟨rest, rfl⟩, hpart, hdigits⟩
    obtain ⟨part, c, rfl⟩ := List.eq_nil_or_concat part |>.resolve_left hpart
    exact ⟨c, by simp, hdigits c (by simp)⟩
  · rintro ⟨c, hc, hdigit⟩
    obtain ⟨rest, rfl⟩ := List.getLast?_eq_some_iff.mp hc
    exact ⟨[c], ⟨rest, rfl⟩, List.cons_ne_nil _ _, by simpa using hdigit⟩

lemma includes_number_iff (hne : branch ≠ []) :
    includes branch ['#'] = true ↔ ∃ c ∈ branch, isDecimalDigit c = true := by
  rw [includes_iff hne]
  simp only [standsFor_number_iff]
  constructor
  · rintro ⟨part, hinfix, hpart, hdigits⟩
    obtain ⟨c, part, rfl⟩ := List.exists_cons_of_ne_nil hpart
    exact ⟨c, hinfix.subset List.mem_cons_self, hdigits c List.mem_cons_self⟩
  · rintro ⟨c, hc, hdigit⟩
    obtain ⟨before, after, rfl⟩ := List.mem_iff_append.mp hc
    exact ⟨[c], ⟨before, after, by simp⟩, List.cons_ne_nil _ _, by simpa using hdigit⟩

/-! ## Digits at places -/

lemma isDigitSection_iff (hne : branch ≠ []) :
    isDigitSection branch 0 (branch.length - 1) = true ↔ ∀ c ∈ branch, c.isDigit = true := by
  have hlast : branch.length - 1 + 1 = branch.length :=
    Nat.sub_add_cancel (List.length_pos_iff.mpr hne)
  rw [isDigitSection, hlast, List.take_length, List.drop_zero, List.isEmpty_eq_false_iff.mpr hne,
    Bool.not_false, Bool.true_and, List.all_eq_true]

lemma startsWithDigit_iff :
    startsWithDigit branch = true ↔ ∃ c ∈ branch.head?, c.isDigit = true :=
  Option.any_eq_true _ _

lemma endsWithDigit_iff :
    endsWithDigit branch = true ↔ ∃ c ∈ branch.getLast?, c.isDigit = true :=
  Option.any_eq_true _ _

lemma exists_isDigitAt_iff :
    (∃ i, i < branch.length ∧ isDigitAt branch i = true) ↔ ∃ c ∈ branch, c.isDigit = true := by
  simp only [isDigitAt, Option.any_eq_true]
  constructor
  · rintro ⟨i, -, c, hc, hdigit⟩
    exact ⟨c, List.mem_of_getElem? hc, hdigit⟩
  · rintro ⟨c, hc, hdigit⟩
    obtain ⟨i, hi, rfl⟩ := List.mem_iff_getElem.mp hc
    exact ⟨i, hi, _, List.getElem?_eq_getElem hi, hdigit⟩

end Branch

/-! ## The calls -/

/-- The pattern `#` as a value. -/
def numberPattern : Value := .string ['#']

section Calls

variable {branch : Text}

lemma isWritable_numberPattern : ∀ v ∈ [numberPattern], v.IsWritable := by
  intro v hv
  obtain rfl := List.mem_singleton.mp hv
  exact List.forall_mem_singleton.mpr rfl

lemma satisfies_equalTo_iff (hne : branch ≠ []) :
    Satisfies branch "equalTo" [numberPattern] ↔ ∀ c ∈ branch, isDecimalDigit c = true := by
  rw [← Branch.equals_number_iff hne]
  exact satisfies_iff (List.mem_of_head? rfl) rfl isWritable_numberPattern rfl

lemma satisfies_startsWith_iff (hne : branch ≠ []) :
    Satisfies branch "startsWith" [numberPattern] ↔
      ∃ c ∈ branch.head?, isDecimalDigit c = true := by
  rw [← Branch.startsWith_number_iff hne]
  exact satisfies_iff (List.mem_of_head? rfl) rfl isWritable_numberPattern rfl

lemma satisfies_endsWith_iff (hne : branch ≠ []) :
    Satisfies branch "endsWith" [numberPattern] ↔
      ∃ c ∈ branch.getLast?, isDecimalDigit c = true := by
  rw [← Branch.endsWith_number_iff hne]
  exact satisfies_iff (List.mem_of_head? rfl) rfl isWritable_numberPattern rfl

lemma satisfies_contains_iff (hne : branch ≠ []) :
    Satisfies branch "contains" [numberPattern] ↔ ∃ c ∈ branch, isDecimalDigit c = true := by
  rw [← Branch.includes_number_iff hne]
  exact satisfies_iff (List.mem_of_head? rfl) rfl isWritable_numberPattern rfl

lemma satisfies_isSectionNum_iff (hne : branch ≠ []) (hlength : branch.length ≤ 4294967296) :
    Satisfies branch "isSectionNum" [.number 0, .number (branch.length - 1)] ↔
      ∀ c ∈ branch, c.isDigit = true := by
  have hwritable : ∀ v ∈ [Value.number 0, .number (branch.length - 1)], v.IsWritable := by
    simp only [List.forall_mem_cons, List.not_mem_nil, false_imp_iff, implies_true, and_true]
    exact ⟨Nat.zero_le _, Nat.sub_le_of_le_add hlength⟩
  rw [← Branch.isDigitSection_iff hne]
  exact satisfies_iff (List.mem_of_head? rfl) rfl hwritable rfl

lemma satisfies_startsWithNum_iff :
    Satisfies branch "startsWithNum" [] ↔ ∃ c ∈ branch.head?, c.isDigit = true := by
  rw [← Branch.startsWithDigit_iff]
  exact satisfies_iff (List.mem_of_head? rfl) rfl (by simp) rfl

lemma satisfies_endsWithNum_iff :
    Satisfies branch "endsWithNum" [] ↔ ∃ c ∈ branch.getLast?, c.isDigit = true := by
  rw [← Branch.endsWithDigit_iff]
  exact satisfies_iff (List.mem_of_head? rfl) rfl (by simp) rfl

lemma exists_satisfies_isCharNum_iff (hlength : branch.length ≤ 4294967296) :
    (∃ i, i < branch.length ∧ Satisfies branch "isCharNum" [.number i]) ↔
      ∃ c ∈ branch, c.isDigit = true := by
  rw [← Branch.exists_isDigitAt_iff]
  refine exists_congr fun i => and_congr_right fun hi => ?_
  have hwritable : ∀ v ∈ [Value.number i], v.IsWritable :=
    List.forall_mem_singleton.mpr (Nat.le_of_lt_succ (Nat.lt_of_lt_of_le hi hlength))
  exact satisfies_iff (List.mem_of_head? rfl) rfl hwritable rfl

end Calls

/-! ## The two kinds compared -/

/-- **The wildcard and the functions say the same about a branch name**: about the whole of it, about its
first and its last character, and about the characters anywhere in it. -/
structure SameDigits (branch : Text) : Prop where
  whole : Satisfies branch "equalTo" [numberPattern] ↔
    Satisfies branch "isSectionNum" [.number 0, .number (branch.length - 1)]
  first : Satisfies branch "startsWith" [numberPattern] ↔ Satisfies branch "startsWithNum" []
  last : Satisfies branch "endsWith" [numberPattern] ↔ Satisfies branch "endsWithNum" []
  somewhere : Satisfies branch "contains" [numberPattern] ↔
    ∃ i, i < branch.length ∧ Satisfies branch "isCharNum" [.number i]

/-- **The digits of other scripts in a branch name, if there are any, make no difference**: none of them is at
an end of the name, and there are one of 0 to 9 and a character that is no digit beside them. -/
structure HidesForeignDigits (branch : Text) : Prop where
  first : ∀ c ∈ branch.head?, ¬ IsForeignDigit c
  last : ∀ c ∈ branch.getLast?, ¬ IsForeignDigit c
  digit : (∃ c ∈ branch, IsForeignDigit c) → ∃ c ∈ branch, c.isDigit = true
  other : (∃ c ∈ branch, IsForeignDigit c) → ∃ c ∈ branch, isDecimalDigit c = false

section Compared

variable {branch : Text}

/-- Among some characters, there is a decimal digit if there is one of 0 to 9 or a foreign one. -/
lemma exists_isDecimalDigit_iff {p : Char → Prop} :
    (∃ c, p c ∧ isDecimalDigit c = true) ↔
      (∃ c, p c ∧ c.isDigit = true) ∨ ∃ c, p c ∧ IsForeignDigit c := by
  simp only [isDecimalDigit_iff, and_or_left, exists_or]

lemma same_at_iff {place : Option Char} :
    ((∃ c ∈ place, isDecimalDigit c = true) ↔ ∃ c ∈ place, c.isDigit = true) ↔
      ∀ c ∈ place, ¬ IsForeignDigit c := by
  constructor
  · intro hsame c hc hforeign
    obtain ⟨d, hd, hdigit⟩ := hsame.mp ⟨c, hc, hforeign.1⟩
    obtain rfl := Option.mem_unique hc hd
    exact hforeign.not_isDigit hdigit
  · intro hnone
    rw [exists_isDecimalDigit_iff, or_iff_left]
    rintro ⟨c, hc, hforeign⟩
    exact hnone c hc hforeign

lemma same_somewhere_iff :
    ((∃ c ∈ branch, isDecimalDigit c = true) ↔ ∃ c ∈ branch, c.isDigit = true) ↔
      ((∃ c ∈ branch, IsForeignDigit c) → ∃ c ∈ branch, c.isDigit = true) := by
  rw [exists_isDecimalDigit_iff]
  exact or_iff_left_iff_imp

lemma forall_isDecimalDigit_iff :
    (∀ c ∈ branch, isDecimalDigit c = true) ↔
      (∀ c ∈ branch, c.isDigit = true) ∨
        (∀ c ∈ branch, isDecimalDigit c = true) ∧ ∃ c ∈ branch, IsForeignDigit c := by
  constructor
  · intro hall
    by_cases hforeign : ∃ c ∈ branch, IsForeignDigit c
    · exact Or.inr ⟨hall, hforeign⟩
    · refine Or.inl fun c hc => ?_
      rcases isDecimalDigit_iff.mp (hall c hc) with hdigit | hc'
      · exact hdigit
      · exact absurd ⟨c, hc, hc'⟩ hforeign
  · rintro (hall | ⟨hall, -⟩)
    · exact fun c hc => isDecimalDigit_of_isDigit (hall c hc)
    · exact hall

lemma same_whole_iff :
    ((∀ c ∈ branch, isDecimalDigit c = true) ↔ ∀ c ∈ branch, c.isDigit = true) ↔
      ((∃ c ∈ branch, IsForeignDigit c) → ∃ c ∈ branch, isDecimalDigit c = false) := by
  constructor
  · rintro hsame ⟨c, hc, hforeign⟩
    by_contra hnone
    have hall : ∀ d ∈ branch, isDecimalDigit d = true := by simpa using hnone
    exact hforeign.not_isDigit (hsame.mp hall c hc)
  · intro hother
    rw [forall_isDecimalDigit_iff, or_iff_left]
    rintro ⟨hall, hforeign⟩
    obtain ⟨c, hc, hnot⟩ := hother hforeign
    exact absurd (hall c hc) (Bool.eq_false_iff.mp hnot)

/-- **The wildcard finds what the functions find, and digits of other scripts.**  For every branch name that
is not empty and so short that its positions can be written as numbers.  The two say the same about just the
names that hide their foreign digits. -/
theorem number_or_foreign_iff (hne : branch ≠ []) (hlength : branch.length ≤ 4294967296) :
    (Satisfies branch "equalTo" [numberPattern] ↔
      Satisfies branch "isSectionNum" [.number 0, .number (branch.length - 1)] ∨
        (∀ c ∈ branch, isDecimalDigit c = true) ∧ ∃ c ∈ branch, IsForeignDigit c) ∧
    (Satisfies branch "startsWith" [numberPattern] ↔
      Satisfies branch "startsWithNum" [] ∨ ∃ c ∈ branch.head?, IsForeignDigit c) ∧
    (Satisfies branch "endsWith" [numberPattern] ↔
      Satisfies branch "endsWithNum" [] ∨ ∃ c ∈ branch.getLast?, IsForeignDigit c) ∧
    (Satisfies branch "contains" [numberPattern] ↔
      (∃ i, i < branch.length ∧ Satisfies branch "isCharNum" [.number i]) ∨
        ∃ c ∈ branch, IsForeignDigit c) ∧
    (SameDigits branch ↔ HidesForeignDigits branch) := by
  have hwhole := satisfies_equalTo_iff hne
  have hfirst := satisfies_startsWith_iff hne
  have hlast := satisfies_endsWith_iff hne
  have hsomewhere := satisfies_contains_iff hne
  have hsection := satisfies_isSectionNum_iff hne hlength
  have hposition := exists_satisfies_isCharNum_iff hlength
  refine ⟨?whole, ?first, ?last, ?somewhere, ?same⟩
  case whole =>
    rw [hwhole, hsection]
    exact forall_isDecimalDigit_iff
  case first =>
    rw [hfirst, satisfies_startsWithNum_iff]
    exact exists_isDecimalDigit_iff
  case last =>
    rw [hlast, satisfies_endsWithNum_iff]
    exact exists_isDecimalDigit_iff
  case somewhere =>
    rw [hsomewhere, hposition]
    exact exists_isDecimalDigit_iff
  case same =>
    constructor
    · rintro ⟨hsame, hsame₁, hsame₂, hsame₃⟩
      rw [hwhole, hsection, same_whole_iff] at hsame
      rw [hfirst, satisfies_startsWithNum_iff, same_at_iff] at hsame₁
      rw [hlast, satisfies_endsWithNum_iff, same_at_iff] at hsame₂
      rw [hsomewhere, hposition, same_somewhere_iff] at hsame₃
      exact ⟨hsame₁, hsame₂, hsame₃, hsame⟩
    · rintro ⟨hhead, hend, hdigit, hother⟩
      refine ⟨?_, ?_, ?_, ?_⟩
      · rw [hwhole, hsection, same_whole_iff]
        exact hother
      · rw [hfirst, satisfies_startsWithNum_iff, same_at_iff]
        exact hhead
      · rw [hlast, satisfies_endsWithNum_iff, same_at_iff]
        exact hend
      · rw [hsomewhere, hposition, same_somewhere_iff]
        exact hdigit

end Compared

/-- The Arabic digit three. -/
def arabicThree : Char := Char.ofNat 0x0663

/-- A name with an Arabic digit in the middle, where it makes no difference. -/
def hiddenName : Text := ['4', arabicThree, 'x', '5']

/-- The digits in that name are the same for both. -/
theorem number_or_foreign_iff_hidden :
    hiddenName ≠ [] ∧ hiddenName.length ≤ 4294967296 ∧ IsForeignDigit arabicThree ∧
      SameDigits hiddenName := by
  have hne : hiddenName ≠ [] := by decide
  have hlength : hiddenName.length ≤ 4294967296 := by decide
  have hhides : HidesForeignDigits hiddenName := by
    refine ⟨?_, ?_, fun _ => ⟨'4', by decide, by decide⟩, fun _ => ⟨'x', by decide, by decide⟩⟩
    · rintro c hc hforeign
      obtain rfl : '4' = c := Option.some.inj hc
      exact hforeign.not_isDigit (by decide)
    · rintro c hc hforeign
      obtain rfl : '5' = c := Option.some.inj hc
      exact hforeign.not_isDigit (by decide)
  obtain ⟨-, -, -, -, hsame⟩ := number_or_foreign_iff hne hlength
  exact ⟨hne, hlength, by decide, hsame.mpr hhides⟩

/-- **A name of one Arabic digit**: the wildcard finds a digit in it, and the functions find none. -/
theorem not_sameDigits_arabic :
    ¬ SameDigits [arabicThree] ∧
      Satisfies [arabicThree] "startsWith" [numberPattern] ∧
      ¬ Satisfies [arabicThree] "startsWithNum" [] := by
  have hne : [arabicThree] ≠ [] := List.cons_ne_nil _ _
  have hwildcard : Satisfies [arabicThree] "startsWith" [numberPattern] :=
    (satisfies_startsWith_iff hne).mpr ⟨arabicThree, rfl, by decide⟩
  have hfunction : ¬ Satisfies [arabicThree] "startsWithNum" [] := by
    rw [satisfies_startsWithNum_iff]
    rintro ⟨c, hc, hdigit⟩
    obtain rfl : arabicThree = c := Option.some.inj hc
    exact absurd hdigit (by decide)
  exact ⟨fun hsame => hfunction (hsame.first.mp hwildcard), hwildcard, hfunction⟩

end BranchPolicy
