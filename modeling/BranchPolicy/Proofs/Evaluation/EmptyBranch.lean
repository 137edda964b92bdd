import BranchPolicy.Proofs.Function.EmptyName
import BranchPolicy.Proofs.Reporting

/-!
# Expressions on the empty branch name

No branch name counts as the empty one, and the empty one satisfies nothing unless the expression says so
itself: the call `equalTo('')` is the only one that answers positively about it.

* `Call.IsNullCheck` — the call is the comparison with the empty string.
* `Fits.values_eq_singleton_iff` — a call passes the empty string alone exactly when it is written with it
  alone.
* `forall₂_dispatch_iff` — what a plan dispatches, call by call.
* **`evaluate_empty_branch`** — an expression without a fault is evaluated on the empty name, each line of
  the trace is positive exactly for such a call, and so is the verdict exactly for a clause of such calls.
-/

namespace BranchPolicy

/-- **A null check** is a call of the comparison with the empty string as its only argument. -/
def Call.IsNullCheck (c : Call) : Prop :=
  c.name = "equalTo".toList ∧ c.arguments = [.string []]

instance (c : Call) : Decidable c.IsNullCheck :=
  inferInstanceAs (Decidable (_ ∧ _))

/-! ## Calls -/

lemma Fits.values_eq_singleton_iff {as : List Argument} {ps : List Parameter} {vs : List Value}
    (h : Fits as ps vs) (s : Text) : vs = [.string s] ↔ as = [.string s] := by
  have hvalues := h.map_value
  constructor
  · rintro rfl
    obtain ⟨a, rest, rfl, ha, hrest⟩ := List.map_eq_cons_iff.mp hvalues
    obtain rfl := List.map_eq_nil_iff.mp hrest
    rw [value_eq_string_iff.mp ha]
  · rintro rfl
    obtain ⟨v, rest, rfl, hv, hrest⟩ := List.map_eq_cons_iff.mp hvalues.symm
    obtain rfl := List.map_eq_nil_iff.mp hrest
    obtain rfl : v = .string s := by simpa [Argument.value] using hv
    rfl

namespace Dialect

/-- Of the calls that resolve in the standard functions, the null checks answer positively about the empty
name, and no others. -/
lemma predicate_nil_eq_true_iff_isNullCheck {call : Call} {res : Resolution}
    (h : Registry.standard.resolve call = .ok res) :
    res.overload.predicate [] res.values = .ok true ↔ call.IsNullCheck := by
  obtain ⟨-, hregistered, hfits⟩ := resolves_of_resolve h
  obtain ⟨hmem, hname⟩ := Registry.mem_overloads_standard_iff.mp hregistered
  rw [Standard.predicate_nil_eq_true_iff hmem hfits.map_kind_values, hname,
    hfits.values_eq_singleton_iff, Call.IsNullCheck]

/-- A line of the trace on the empty name. -/
lemma Answers.answer_iff_isNullCheck {call : Call} {a : CallAnswer} (h : Answers standard [] call a) :
    a.answer = true ↔ call.IsNullCheck := by
  obtain ⟨res, hres, -, hanswer, -⟩ := h
  rw [← predicate_nil_eq_true_iff_isNullCheck hres, hanswer, Except.ok.injEq]

/-! ## Expressions -/

/-- What the plan of an expression dispatches are the answers of its calls, clause by clause. -/
lemma forall₂_dispatch_iff {d : Dialect} {expression branch : Text} {plan : List (List ResolvedCall)}
    {answers : List (List CallAnswer)}
    (h : List.Forall₂ (fun clause calls => List.Forall₂ (fun call rc => d.resolveCall call = .ok rc)
      clause.calls calls) (Expression.clauses expression) plan) :
    List.Forall₂ (List.Forall₂ fun rc a => dispatch branch rc = .ok a) plan answers ↔
      List.Forall₂ (fun clause lines => List.Forall₂ (Answers d branch) clause.calls lines)
        (Expression.clauses expression) answers := by
  refine Traversal.forall₂_iff_of_forall₂ h fun clause hclause calls hcalls lines => ?_
  refine Traversal.forall₂_iff_of_forall₂ hcalls fun call hcall rc hrc a => ?_
  exact dispatch_eq_ok_iff (List.mem_flatMap.mpr ⟨clause, hclause, hcall⟩) hrc

/-- **The empty branch name satisfies null checks and nothing else.**  Let an expression of the standard
functions have no fault, and let there be no branch name or the empty one.  Then the evaluation comes to a
verdict; there is one line of the trace for each call, which is positive exactly for a null check, and the
verdict is positive exactly if the calls of some clause are null checks, all of them. -/
theorem evaluate_empty_branch {expression branch : Option Text}
    (hvalid : standard.fault? expression = .ok none) (hempty : branch.getD [] = []) :
    ∃ verdict trace, standard.evaluate expression branch = .ok (.decided verdict trace) ∧
      List.Forall₂ (fun call a => a.call = call.source ∧ (a.answer = true ↔ call.IsNullCheck))
        (Expression.calls (expression.getD [])) trace ∧
      (verdict = true ↔ ∃ clause ∈ Expression.clauses (expression.getD []),
        ∀ call ∈ clause.calls, call.IsNullCheck) := by
  obtain ⟨plan, hplan, hevaluate⟩ := exists_plan_of_fault?_eq_none hvalid
  obtain ⟨-, hresolved⟩ := plan_eq_ok_iff.mp hplan
  obtain ⟨outcome, houtcome, -⟩ :=
    exists_follow_of_plan_eq_ok hplan fun _ _ => exists_answer_of_resolve []
  obtain ⟨answers, hdispatched, rfl⟩ := follow_eq_ok_iff.mp houtcome
  have hanswered : List.Forall₂ (fun clause lines => List.Forall₂
      (fun call a => a.call = call.source ∧ (a.answer = true ↔ call.IsNullCheck)) clause.calls lines)
      (Expression.clauses (expression.getD [])) answers := by
    refine ((forall₂_dispatch_iff hresolved).mp hdispatched).imp fun clause lines hlines => ?_
    refine hlines.imp fun call a ha => ⟨?_, ha.answer_iff_isNullCheck⟩
    obtain ⟨_, -, -, -, -, hsource⟩ := ha
    exact hsource
  refine ⟨_, _, by rw [hevaluate, hempty]; exact houtcome, ?trace, ?verdict⟩
  case trace =>
    rw [Expression.calls, List.flatMap_def]
    exact List.rel_flatten ((List.forall₂_map_left_iff (f := Clause.calls)).mpr hanswered)
  case verdict =>
    -- a clause and its lines agree on whether all of them are positive
    have hclause : ∀ (clause : Clause) (lines : List CallAnswer), List.Forall₂
        (fun call a => a.call = call.source ∧ (a.answer = true ↔ call.IsNullCheck)) clause.calls lines →
        ((∀ call ∈ clause.calls, call.IsNullCheck) ↔ ∀ a ∈ lines, a.answer = true) :=
      fun _ _ h => Traversal.forall_mem_iff_of_forall₂ h fun _ _ ha => ha.2.symm
    rw [Traversal.exists_mem_iff_of_forall₂ hanswered hclause]
    simp only [List.any_eq_true, List.all_eq_true]

/-- An expression with a null check in each of its clauses, alone in the second one. -/
def missingOrShort : Text :=
  "equalTo('') && lenLessThan(9) || equalTo( '' )".toList

/-- Without a branch name, the second clause decides: a null check beside another call is not enough. -/
theorem evaluate_empty_branch_missing_or_short :
    standard.fault? (some missingOrShort) = .ok none ∧
      ∃ trace, standard.evaluate (some missingOrShort) none = .ok (.decided true trace) ∧
        List.Forall₂ (fun call a => a.call = call.source ∧ (a.answer = true ↔ call.IsNullCheck))
          (Expression.calls missingOrShort) trace := by
  have hvalid : standard.fault? (some missingOrShort) = .ok none := by decide +kernel
  have hempty : (none : Option Text).getD [] = [] := rfl
  obtain ⟨verdict, trace, houtcome, htrace, hverdict⟩ := evaluate_empty_branch hvalid hempty
  have hclause : ∃ clause ∈ Expression.clauses missingOrShort, ∀ call ∈ clause.calls,
      call.IsNullCheck := by
    decide +kernel
  obtain rfl := hverdict.mpr hclause
  exact ⟨hvalid, trace, houtcome, htrace⟩

end Dialect

end BranchPolicy
