import BranchPolicy.Proofs.Function.Decision
import BranchPolicy.Proofs.Text.Search

/-!
# The order of first occurrences

A value comes before another in a branch name when its first occurrence starts earlier.  On the values that
occur in the name this is a strict order, and it stays as it is when the name goes on.

* `Precedes` — a value comes before another in a text, said of all their occurrences.
* `precedes_iff_lt` — the same of their first occurrences.
* `Precedes.irrefl`, `Precedes.trans`, `Precedes.append` — it is a strict order, and stable.
* `Branch.isBefore_iff`, `Branch.isAfter_eq` — what the two predicates say.
* **`isBefore_strict_order`** — the functions for the order of two values.
-/

namespace BranchPolicy

namespace Text

/-- **A value comes before another**: the other one occurs, and some occurrence of the value starts before
all occurrences of the other. -/
def Precedes (t value after : Text) : Prop :=
  (∃ j, OccursAt after t j) ∧ ∃ i, OccursAt value t i ∧ ∀ j, OccursAt after t j → i < j

section Order

variable {t u v w : Text}

/-- A value comes before another when the first occurrences of the two are in this order. -/
lemma precedes_iff_lt :
    Precedes t v w ↔ ∃ i j, firstIndex? v t = some i ∧ firstIndex? w t = some j ∧ i < j := by
  simp only [firstIndex?_eq_some_iff]
  constructor
  · rintro ⟨⟨k, hk⟩, i, hi, hbefore⟩
    obtain ⟨m, hm⟩ := exists_firstIndex? hi
    obtain ⟨j, hj⟩ := exists_firstIndex? hk
    have hleast := isLeast_of_firstIndex? hm
    have hleast' := isLeast_of_firstIndex? hj
    exact ⟨m, j, hleast, hleast', Nat.lt_of_le_of_lt (hleast.2 hi) (hbefore j hleast'.1)⟩
  · rintro ⟨i, j, hi, hj, hlt⟩
    exact ⟨⟨j, hj.1⟩, i, hi.1, fun k hk => Nat.lt_of_lt_of_le hlt (hj.2 hk)⟩

lemma Precedes.irrefl (t v : Text) : ¬ Precedes t v v := by
  rintro ⟨-, i, hi, hbefore⟩
  exact Nat.lt_irrefl i (hbefore i hi)

lemma Precedes.trans (h : Precedes t v w) (h' : Precedes t w u) : Precedes t v u := by
  obtain ⟨-, i, hi, hbefore⟩ := h
  obtain ⟨hoccurs, j, hj, hbefore'⟩ := h'
  exact ⟨hoccurs, i, hi, fun k hk => Nat.lt_trans (hbefore j hj) (hbefore' k hk)⟩

/-- The order stays when the text goes on, as each value is found first where it was. -/
lemma Precedes.append (h : Precedes t v w) (more : Text) : Precedes (t ++ more) v w := by
  obtain ⟨i, j, hi, hj, hlt⟩ := precedes_iff_lt.mp h
  exact precedes_iff_lt.mpr ⟨i, j, firstIndex?_append hi more, firstIndex?_append hj more, hlt⟩

end Order

end Text

namespace Branch

variable {branch v w : Text}

lemma isBefore_iff (hbranch : branch ≠ []) :
    isBefore branch v w = true ↔ Text.Precedes branch v w := by
  rw [isBefore, List.isEmpty_eq_false_iff.mpr hbranch, Text.precedes_iff_lt]
  cases v.firstIndex? branch <;> cases w.firstIndex? branch <;> simp

lemma isAfter_eq : isAfter branch v w = isBefore branch w v := by
  rw [isAfter, isBefore]
  cases v.firstIndex? branch <;> cases w.firstIndex? branch <;> rfl

end Branch

namespace Standard

section Order

variable {branch v w : Text} {answer : Bool}

lemma decides_isBefore_iff :
    Decides "isBefore" branch [.string v, .string w] answer ↔ Branch.isBefore branch v w = answer :=
  decides_iff rfl

lemma decides_isAfter_iff :
    Decides "isAfter" branch [.string v, .string w] answer ↔ Branch.isBefore branch w v = answer := by
  rw [← Branch.isAfter_eq]
  exact decides_iff rfl

/-- **The functions for the order of two values are a strict order that is stable.**  For every branch name
that is not empty and all values: `isAfter` decides as `isBefore` does with the values exchanged; `isBefore`
holds when the second value occurs and some occurrence of the first starts before all of its occurrences; no
value is before itself; and what is before a value is before all that this value is before.  What holds of a
name holds of every name that starts with it. -/
theorem isBefore_strict_order (hbranch : branch ≠ []) (v w u : Text) :
    (∀ answer, Decides "isAfter" branch [.string v, .string w] answer ↔
      Decides "isBefore" branch [.string w, .string v] answer) ∧
    (Decides "isBefore" branch [.string v, .string w] true ↔
      (∃ j, Text.OccursAt w branch j) ∧
        ∃ i, Text.OccursAt v branch i ∧ ∀ j, Text.OccursAt w branch j → i < j) ∧
    Decides "isBefore" branch [.string v, .string v] false ∧
    (Decides "isBefore" branch [.string v, .string w] true →
      Decides "isBefore" branch [.string w, .string u] true →
        Decides "isBefore" branch [.string v, .string u] true) ∧
    (Decides "isBefore" branch [.string v, .string w] true →
      ∀ more, Decides "isBefore" (branch ++ more) [.string v, .string w] true) := by
  simp only [decides_isBefore_iff, decides_isAfter_iff, implies_true, true_and,
    Branch.isBefore_iff hbranch]
  refine ⟨Iff.rfl, ?irrefl, Text.Precedes.trans, fun h more => ?append⟩
  case irrefl =>
    rw [Bool.eq_false_iff, ne_eq, Branch.isBefore_iff hbranch]
    exact Text.Precedes.irrefl branch v
  case append =>
    rw [Branch.isBefore_iff (List.append_ne_nil_of_left_ne_nil hbranch more)]
    exact h.append more

end Order

/-- In a branch name with overlapping occurrences the empty value is before a value, and this one before a
value that also occurs where the name goes on. -/
theorem isBefore_strict_order_overlapping :
    "aab-ba".toList ≠ [] ∧
      Decides "isBefore" "aab-ba".toList [.string [], .string "ab".toList] true ∧
      Decides "isBefore" "aab-ba".toList [.string "ab".toList, .string "ba".toList] true ∧
      Decides "isBefore" "aab-ba".toList [.string [], .string "ba".toList] true ∧
      Decides "isBefore" "aab-baba".toList [.string "ab".toList, .string "ba".toList] true ∧
      Decides "isAfter" "aab-ba".toList [.string "ba".toList, .string "ab".toList] true := by
  have hbranch : "aab-ba".toList ≠ [] := by decide
  have hfirst : Decides "isBefore" "aab-ba".toList [.string [], .string "ab".toList] true := rfl
  have hsecond : Decides "isBefore" "aab-ba".toList [.string "ab".toList, .string "ba".toList] true := rfl
  obtain ⟨-, -, -, htrans, -⟩ := isBefore_strict_order hbranch [] "ab".toList "ba".toList
  obtain ⟨-, -, -, -, hstable⟩ := isBefore_strict_order hbranch "ab".toList "ba".toList []
  obtain ⟨hafter, -⟩ := isBefore_strict_order hbranch "ba".toList "ab".toList []
  exact ⟨hbranch, hfirst, hsecond, htrans hfirst hsecond, hstable hsecond "ba".toList,
    (hafter true).mpr hsecond⟩

end Standard

end BranchPolicy
