import BranchPolicy.Proofs.Evaluation.WrittenCall
import BranchPolicy.Proofs.Resolution.Matching

/-!
# What the standard functions decide

A function may have several overloads, and the kinds of the values in a call say which of them answers.  The
answers below are those of the overloads that take values of the given kinds, for any values whatever, also
for those that cannot be written in an expression.

* `Standard.replies` — the answers for some values.
* `Standard.Decides` — there is one answer, and it is no failure.
* `Standard.decides_iff` — a decision is read off the answers.
* `Standard.exists_decides` — a function decides about all values of the kinds of one of its overloads.
* **`Standard.satisfies_iff_of_decides`** — a written call is approved exactly when its function decides
  positively.
-/

namespace BranchPolicy.Standard

/-- What the overloads of a standard function that take values of these kinds answer for a branch name. -/
def replies (function : String) (branch : Text) (values : List Value) : List (Except String Bool) :=
  ((Registry.standard.overloads function.toList).filter
    (·.signature.accepts (values.map Value.kind))).map fun o => o.predicate branch values

/-- **The decision of a standard function** for a branch name and some values: it has one answer, which is
`answer`. -/
def Decides (function : String) (branch : Text) (values : List Value) (answer : Bool) : Prop :=
  replies function branch values = [.ok answer]

section Decision

variable {function : String} {branch : Text} {values : List Value} {answer b : Bool}

lemma decides_iff (h : replies function branch values = [.ok b]) :
    Decides function branch values answer ↔ b = answer := by
  rw [Decides, h, List.cons.injEq, and_iff_left rfl, Except.ok.injEq]

/-- A standard function decides about all values whose kinds are those of one of its overloads. -/
theorem exists_decides {o : Overload} (ho : o ∈ Registry.standard.overloads function.toList)
    (hkinds : values.map Value.kind = o.parameters.map Parameter.kind) (branch : Text) :
    ∃ answer, Decides function branch values answer := by
  obtain ⟨hmem, -⟩ := Registry.mem_overloads_standard_iff.mp ho
  obtain ⟨answer, hanswer⟩ := isTotal_of_mem_overloads hmem branch values hkinds
  have hmatch : o.signature.accepts (values.map Value.kind) = true := beq_iff_eq.mpr hkinds.symm
  refine ⟨answer, ?_⟩
  rw [Decides, replies, filter_accepts_eq_singleton Registry.build_standard ho hmatch,
    List.map_singleton, hanswer]

/-- **A written call is approved exactly when its function decides positively.** -/
theorem satisfies_iff_of_decides (h : Decides function branch values answer)
    (hwritable : ∀ v ∈ values, v.IsWritable) : Satisfies branch function values ↔ answer = true := by
  obtain ⟨o, ho, hanswer⟩ := List.mem_map.mp (h ▸ List.mem_singleton_self (Except.ok answer))
  obtain ⟨ho, haccepts⟩ := List.mem_filter.mp ho
  have hkinds : values.map Value.kind = o.parameters.map Parameter.kind := (beq_iff_eq.mp haccepts).symm
  exact satisfies_iff ho hkinds hwritable hanswer

end Decision

end BranchPolicy.Standard
