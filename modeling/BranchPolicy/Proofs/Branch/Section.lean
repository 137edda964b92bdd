import BranchPolicy.Proofs.Function.Decision
import Mathlib.Order.Bounds.Basic

/-!
# Sections of digits

Two overloads ask whether a section of the branch name holds digits only.  One is given the last place of
the section, and cuts it at the end of the name; the other is given the character that ends the section, and
wants one to be there and something before it.  Both come down to the digits at single places.

* `isDigitAt_iff` — a digit at a place.
* `isDigitSection_iff_forall` — a section with a last place, place by place.
* `isLeast_delimiter`, `isDigitSection_of_split`, `isDigitSectionUpTo_of_split` — the two overloads on a name
  that is cut at the delimiter.
* `isDigitSectionUpTo_iff` — a section up to a delimiter is the section that ends before it.
* **`isSectionNum_iff_isCharNum`** — the functions for sections and for the ends of the name, in terms of the
  function for single places.
-/

namespace BranchPolicy

namespace Branch

variable {branch before digits after : Text} {d : Char} {ds : Text} {first last i : Nat}

/-! ## Single places -/

lemma isDigitAt_iff : isDigitAt branch i = true ↔ ∃ c, branch[i]? = some c ∧ c.isDigit = true :=
  Option.any_eq_true _ _

lemma startsWithDigit_eq : startsWithDigit branch = isDigitAt branch 0 := by
  rw [startsWithDigit, isDigitAt, List.head?_eq_getElem?]

lemma endsWithDigit_eq : endsWithDigit branch = isDigitAt branch (branch.length - 1) := by
  rw [endsWithDigit, isDigitAt, List.getLast?_eq_getElem?]

/-! ## Sections with a last place -/

lemma mem_section_iff {c : Char} :
    c ∈ (branch.take (last + 1)).drop first ↔ ∃ i, first ≤ i ∧ i ≤ last ∧ branch[i]? = some c := by
  simp only [List.mem_iff_getElem?, List.getElem?_drop, List.getElem?_take]
  constructor
  · rintro ⟨k, hk⟩
    split at hk
    · next hlast => exact ⟨first + k, Nat.le_add_right first k, Nat.le_of_lt_succ hlast, hk⟩
    · exact absurd hk (by simp)
  · rintro ⟨i, hfirst, hlast, hi⟩
    refine ⟨i - first, ?_⟩
    rw [Nat.add_sub_cancel' hfirst, if_pos (Nat.lt_succ_of_le hlast), hi]

/-- **A section holds digits only when there is one at each of its places.** -/
lemma isDigitSection_iff_forall (hbranch : branch ≠ []) :
    isDigitSection branch first last = true ↔
      ∀ i, first ≤ i → i ≤ last → i < branch.length → isDigitAt branch i = true := by
  rw [isDigitSection, List.isEmpty_eq_false_iff.mpr hbranch, Bool.not_false, Bool.true_and,
    List.all_eq_true]
  simp only [mem_section_iff, isDigitAt_iff]
  constructor
  · intro hall i hfirst hlast hi
    have hc := List.getElem?_eq_getElem hi
    exact ⟨_, hc, hall _ ⟨i, hfirst, hlast, hc⟩⟩
  · rintro hall c ⟨i, hfirst, hlast, hc⟩
    obtain ⟨hi, -⟩ := List.getElem?_eq_some_iff.mp hc
    obtain ⟨c', hc', hdigit⟩ := hall i hfirst hlast hi
    obtain rfl := Option.some.inj (hc.symm.trans hc')
    exact hdigit

/-! ## Sections up to a delimiter

A name that has the delimiter at or after the first place is cut into what is before this place, the section,
the delimiter and the rest. -/

lemma exists_split (hd : d ∈ branch.drop first) :
    ∃ before digits after, branch = before ++ (digits ++ d :: after) ∧ before.length = first ∧
      d ∉ digits := by
  obtain ⟨digits, after, hdrop, hnot⟩ := List.eq_append_cons_of_mem hd
  have hlength : first ≤ branch.length := by
    by_contra hlong
    rw [List.drop_eq_nil_of_le (Nat.le_of_lt (Nat.lt_of_not_le hlong))] at hd
    exact List.not_mem_nil hd
  refine ⟨branch.take first, digits, after, ?_, List.length_take_of_le hlength, hnot⟩
  rw [← hdrop, List.take_append_drop]

lemma isLeast_delimiter (before after : Text) (hnot : d ∉ digits) :
    IsLeast {j | before.length ≤ j ∧ (before ++ (digits ++ d :: after))[j]? = some d}
      (before.length + digits.length) := by
  constructor
  · refine ⟨Nat.le_add_right _ _, ?_⟩
    rw [List.getElem?_append_right (Nat.le_add_right _ _), Nat.add_sub_cancel_left,
      List.getElem?_append_right (Nat.le_refl _), Nat.sub_self, List.getElem?_cons_zero]
  · rintro j ⟨hfrom, hj⟩
    by_contra hshort
    rw [List.getElem?_append_right hfrom, List.getElem?_append_left (by omega)] at hj
    exact hnot (List.mem_of_getElem? hj)

lemma isDigitSection_of_split (hsome : digits ≠ []) :
    isDigitSection (before ++ (digits ++ after)) before.length (before.length + digits.length - 1) = true ↔
      ∀ c ∈ digits, c.isDigit = true := by
  have hlast : before.length + digits.length - 1 + 1 = before.length + digits.length := by
    have hpos := List.length_pos_iff.mpr hsome
    omega
  have hsection : ((before ++ (digits ++ after)).take (before.length + digits.length)).drop before.length
      = digits := by
    rw [← List.length_append, ← List.append_assoc, List.take_left, List.drop_left]
  rw [isDigitSection, hlast, hsection]
  simp [hsome]

lemma isDigitSectionUpTo_of_split (hnot : d ∉ digits) :
    isDigitSectionUpTo (before ++ (digits ++ d :: after)) before.length (d :: ds) = true ↔
      digits ≠ [] ∧ ∀ c ∈ digits, c.isDigit = true := by
  have hrest : (before ++ (digits ++ d :: after)).drop before.length = digits ++ d :: after :=
    List.drop_left
  have htaken : (digits ++ d :: after).takeWhile (· != d) = digits := by
    rw [List.takeWhile_append_of_pos]
    · simp
    · intro c hc
      simpa using fun heq : c = d => hnot (heq ▸ hc)
  simp [isDigitSectionUpTo, hrest, htaken]

/-- **A section up to a delimiter is the section that ends before the first one.** -/
lemma isDigitSectionUpTo_iff :
    isDigitSectionUpTo branch first (d :: ds) = true ↔
      ∃ j, IsLeast {j | first ≤ j ∧ branch[j]? = some d} j ∧ first < j ∧
        isDigitSection branch first (j - 1) = true := by
  by_cases hd : d ∈ branch.drop first
  · obtain ⟨before, digits, after, rfl, rfl, hnot⟩ := exists_split hd
    have hleast := isLeast_delimiter before after hnot
    rw [isDigitSectionUpTo_of_split hnot]
    constructor
    · rintro ⟨hsome, hdigits⟩
      have hpos := List.length_pos_iff.mpr hsome
      exact ⟨_, hleast, Nat.lt_add_of_pos_right hpos, (isDigitSection_of_split hsome).mpr hdigits⟩
    · rintro ⟨j, hj, hlt, hsection⟩
      obtain rfl := hj.unique hleast
      have hsome : digits ≠ [] := List.length_pos_iff.mp (Nat.pos_of_lt_add_right hlt)
      exact ⟨hsome, (isDigitSection_of_split hsome).mp hsection⟩
  · have hnone : isDigitSectionUpTo branch first (d :: ds) = false := by
      simp only [isDigitSectionUpTo, List.contains_eq_mem, hd, decide_false, Bool.false_and]
    rw [hnone]
    constructor
    · intro h
      exact absurd h Bool.false_ne_true
    · rintro ⟨j, ⟨⟨hfrom, hj⟩, -⟩, -⟩
      have hplace : (branch.drop first)[j - first]? = some d := by
        rw [List.getElem?_drop, Nat.add_sub_cancel' hfrom, hj]
      exact absurd (List.mem_of_getElem? hplace) hd

end Branch

namespace Standard

section Sections

variable {branch : Text} {answer : Bool}

lemma decides_isCharNum_iff {i : Nat} :
    Decides "isCharNum" branch [.number i] answer ↔ Branch.isDigitAt branch i = answer :=
  decides_iff rfl

lemma decides_isSectionNum_iff {first last : Nat} :
    Decides "isSectionNum" branch [.number first, .number last] answer ↔
      Branch.isDigitSection branch first last = answer :=
  decides_iff rfl

lemma decides_isSectionNum_upTo_iff {first : Nat} {delimiter : Text} :
    Decides "isSectionNum" branch [.number first, .string delimiter] answer ↔
      Branch.isDigitSectionUpTo branch first delimiter = answer :=
  decides_iff rfl

lemma decides_startsWithNum_iff :
    Decides "startsWithNum" branch [] answer ↔ Branch.startsWithDigit branch = answer :=
  decides_iff rfl

lemma decides_endsWithNum_iff :
    Decides "endsWithNum" branch [] answer ↔ Branch.endsWithDigit branch = answer :=
  decides_iff rfl

/-- **The functions for sections agree with the function for single places.**  For every branch name, any
places and every delimiter that is not empty.  A section with a last place holds digits only when there is a
digit at each of its places in the name, so that an empty section does.  A section up to a delimiter wants
the first character of the delimiter to come at or after its first place; it then is the section that ends
before the first of these, and it must not be empty.  The name starts or ends with a digit when there is one
at its first or its last place. -/
theorem isSectionNum_iff_isCharNum (branch : Text) (first last : Nat) (d : Char) (ds : Text) :
    (∀ i, Decides "isCharNum" branch [.number i] true ↔ ∃ c, branch[i]? = some c ∧ c.isDigit = true) ∧
    (branch ≠ [] →
      (Decides "isSectionNum" branch [.number first, .number last] true ↔
        ∀ i, first ≤ i → i ≤ last → i < branch.length →
          Decides "isCharNum" branch [.number i] true)) ∧
    (Decides "isSectionNum" branch [.number first, .string (d :: ds)] true ↔
      ∃ j, IsLeast {j | first ≤ j ∧ branch[j]? = some d} j ∧ first < j ∧
        Decides "isSectionNum" branch [.number first, .number (j - 1)] true) ∧
    (Decides "startsWithNum" branch [] true ↔ Decides "isCharNum" branch [.number 0] true) ∧
    (branch ≠ [] →
      (Decides "endsWithNum" branch [] true ↔
        Decides "isCharNum" branch [.number (branch.length - 1)] true)) := by
  simp only [decides_isCharNum_iff, decides_isSectionNum_iff, decides_isSectionNum_upTo_iff,
    decides_startsWithNum_iff, decides_endsWithNum_iff]
  refine ⟨fun i => Branch.isDigitAt_iff, Branch.isDigitSection_iff_forall,
    Branch.isDigitSectionUpTo_iff, ?starts, fun _ => ?ends⟩
  case starts => rw [Branch.startsWithDigit_eq]
  case ends => rw [Branch.endsWithDigit_eq]

end Sections

/-- A section that goes past the end of the name, one that ends before it starts, and one up to a delimiter
of which only the first character counts. -/
theorem isSectionNum_iff_isCharNum_issue :
    "issue/42-7".toList ≠ [] ∧
      Decides "isSectionNum" "issue/42-7".toList [.number 9, .number 40] true ∧
      Decides "isSectionNum" "issue/42-7".toList [.number 40, .number 9] true ∧
      ∃ j, IsLeast {j | 6 ≤ j ∧ "issue/42-7".toList[j]? = some '-'} j ∧ 6 < j ∧
        Decides "isSectionNum" "issue/42-7".toList [.number 6, .number (j - 1)] true := by
  have hbranch : "issue/42-7".toList ≠ [] := by decide
  have hlength : "issue/42-7".toList.length = 10 := rfl
  obtain ⟨-, hpast, -⟩ := isSectionNum_iff_isCharNum "issue/42-7".toList 9 40 '-' []
  obtain ⟨-, hempty, -⟩ := isSectionNum_iff_isCharNum "issue/42-7".toList 40 9 '-' []
  obtain ⟨-, -, hupTo, -⟩ := isSectionNum_iff_isCharNum "issue/42-7".toList 6 0 '-' ['x']
  refine ⟨hbranch, (hpast hbranch).mpr ?past, (hempty hbranch).mpr ?empty, hupTo.mp rfl⟩
  case past =>
    intro i hfirst _ hi
    obtain rfl : i = 9 := by omega
    rfl
  case empty =>
    intro i hfirst hlast
    omega

end Standard

end BranchPolicy
