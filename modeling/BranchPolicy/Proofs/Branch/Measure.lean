import BranchPolicy.Proofs.Function.Decision
import BranchPolicy.Proofs.Glob.RegularExpression
import BranchPolicy.Proofs.Text.Packing

/-!
# How often a value occurs

Three functions compare the number of occurrences of a value with a total.  The number that they go by is
the greatest number of occurrences without a common character, and no character of the value has a meaning
other than itself.

* `countFunction` — the function that holds when the number compares to the total in a given way.
* `decides_countFunction_iff` — what the three functions decide.
* `exists_decides_countFunctions` — one of them decides positively and the others negatively.
* **`existsTotal_iff_isGreatest`** — the total that holds is the greatest number of disjoint occurrences.
-/

namespace BranchPolicy.Standard

/-- The function that holds when the number of occurrences compares to the total in this way. -/
def countFunction : Ordering → String
  | .lt => "existsLessThan"
  | .eq => "existsTotal"
  | .gt => "existsGreaterThan"

/-- The functions that compare the number of occurrences of a value with a total. -/
def countFunctions : List String :=
  ["existsLessThan", "existsTotal", "existsGreaterThan"]

lemma mem_countFunctions_iff {function : String} :
    function ∈ countFunctions ↔ ∃ o, function = countFunction o := by
  simp only [countFunctions, List.mem_cons, List.not_mem_nil, or_false]
  constructor
  · rintro (rfl | rfl | rfl)
    · exact ⟨.lt, rfl⟩
    · exact ⟨.eq, rfl⟩
    · exact ⟨.gt, rfl⟩
  · rintro ⟨_ | _ | _, rfl⟩ <;> simp [countFunction]

section Counts

variable {branch value : Text} {total : Nat} {answer : Bool}

/-- **Each of the three functions compares the count with the total.** -/
lemma decides_countFunction_iff (hbranch : branch ≠ []) (o : Ordering) :
    Decides (countFunction o) branch [.string value, .number total] answer ↔
      decide (compare (value.countDisjoint branch) total = o) = answer := by
  have hsome : (!branch.isEmpty) = true := by simpa using hbranch
  cases o with
  | lt =>
      have hreplies : replies "existsLessThan" branch [.string value, .number total]
          = [.ok (Branch.occursLess branch value total)] := rfl
      rw [countFunction, decides_iff hreplies, Branch.occursLess, hsome, Bool.true_and]
      simp only [Nat.compare_eq_lt]
  | eq =>
      have hreplies : replies "existsTotal" branch [.string value, .number total]
          = [.ok (Branch.occursExactly branch value total)] := rfl
      rw [countFunction, decides_iff hreplies, Branch.occursExactly, hsome, Bool.true_and]
      simp only [Nat.compare_eq_eq, beq_eq_decide]
  | gt =>
      have hreplies : replies "existsGreaterThan" branch [.string value, .number total]
          = [.ok (Branch.occursMore branch value total)] := rfl
      rw [countFunction, decides_iff hreplies, Branch.occursMore, hsome, Bool.true_and]
      simp only [Nat.compare_eq_gt]

/-- One of the three functions decides positively and the others negatively. -/
lemma exists_decides_countFunctions (hbranch : branch ≠ []) (value : Text) (total : Nat) :
    ∃ function ∈ countFunctions,
      Decides function branch [.string value, .number total] true ∧
        ∀ other ∈ countFunctions, other ≠ function →
          Decides other branch [.string value, .number total] false := by
  refine ⟨countFunction (compare (value.countDisjoint branch) total),
    mem_countFunctions_iff.mpr ⟨_, rfl⟩, ?_, ?_⟩
  · rw [decides_countFunction_iff hbranch, decide_eq_true_iff]
  · intro other hother hne
    obtain ⟨o, rfl⟩ := mem_countFunctions_iff.mp hother
    rw [decides_countFunction_iff hbranch, decide_eq_false_iff_not]
    rintro rfl
    exact hne rfl

/-- **The total that holds is the greatest number of disjoint occurrences**, none for the empty value.  For
every branch name that is not empty, every value and every total.  The occurrences are those of the value as
it is written: escaped for a search it matches itself alone.  And of the three functions that compare the
number with the total, exactly one holds. -/
theorem existsTotal_iff_isGreatest (hbranch : branch ≠ []) (value : Text) (total : Nat) :
    (Decides "existsTotal" branch [.string value, .number total] true ↔
      if value = [] then total = 0
      else IsGreatest {k | ∃ starts, Text.IsPacking value branch starts ∧ starts.card = k} total) ∧
    (∀ t, RegexMatches (escaped value) t ↔ t = value) ∧
    ∃ function ∈ countFunctions,
      Decides function branch [.string value, .number total] true ∧
        ∀ other ∈ countFunctions, other ≠ function →
          Decides other branch [.string value, .number total] false := by
  refine ⟨?total, fun t => regexMatches_escaped_iff, exists_decides_countFunctions hbranch value total⟩
  case total =>
    rw [← countFunction, decides_countFunction_iff hbranch, decide_eq_true_iff, Nat.compare_eq_eq]
    split
    · next hempty =>
        rw [hempty, Text.countDisjoint, List.isEmpty_nil, if_pos rfl]
        exact eq_comm
    · next hvalue =>
        have hmost : IsGreatest _ (value.countDisjoint branch) := Text.isGreatest_countDisjoint hvalue
        constructor
        · rintro rfl
          exact hmost
        · exact hmost.unique

end Counts

/-- Three occurrences of a value that overlap in a branch name, two of which can be counted.  The characters
of the value would have other meanings in a regular expression. -/
theorem existsTotal_iff_isGreatest_overlapping :
    "v+.+.+.+".toList ≠ [] ∧
      Text.OccursAt "+.+".toList "v+.+.+.+".toList 3 ∧
      Decides "existsTotal" "v+.+.+.+".toList [.string "+.+".toList, .number 2] true ∧
      IsGreatest {k | ∃ starts, Text.IsPacking "+.+".toList "v+.+.+.+".toList starts ∧ starts.card = k}
        2 := by
  have hbranch : "v+.+.+.+".toList ≠ [] := by decide
  have hmiddle : Text.OccursAt "+.+".toList "v+.+.+.+".toList 3 :=
    ⟨"v+.".toList, ".+".toList, rfl, rfl⟩
  have htwo : Decides "existsTotal" "v+.+.+.+".toList [.string "+.+".toList, .number 2] true := rfl
  obtain ⟨htotal, -⟩ := existsTotal_iff_isGreatest hbranch "+.+".toList 2
  exact ⟨hbranch, hmiddle, htwo, htotal.mp htwo⟩

end BranchPolicy.Standard
