import BranchPolicy.Proofs.Evaluation.Disjunction
import BranchPolicy.Proofs.Evaluation.EmptyBranch
import BranchPolicy.Proofs.Workflow.Delivery

/-!
# Runs on a name that is trimmed to nothing

A run asks for a branch name before it trims it, so that the expression can come to be evaluated on the empty
name.  Nearly every expression turns it down.  The exception is one that asks for it, by a clause of null
checks, and a run of such an expression approves the empty name.

* `AsksForEmptyName` — some clause of an expression is made of null checks.
* `verdict_empty_name_iff` — a dialect with the standard functions is positive about the empty name exactly for
  such an expression, whatever its checks are.
* `TrimsAll`, `validatedBranch_eq_nil_iff` — when trimming takes the whole name away.
* `Approves`, `approves_iff` — a run returns a positive result, that is, it comes to a positive verdict.
* **`run_approves_empty_name_iff`** — the runs that approve the empty name, and the output that they set.
* **`run_approves_nothing_left`** — there are such runs.
-/

namespace BranchPolicy

/-! ## Expressions -/

/-- **An expression asks for the empty name** if some clause of it is made of null checks. -/
def Expression.AsksForEmptyName (expression : Text) : Prop :=
  ∃ clause ∈ Expression.clauses expression, ∀ call ∈ clause.calls, call.IsNullCheck

instance (expression : Text) : Decidable (Expression.AsksForEmptyName expression) :=
  inferInstanceAs (Decidable (∃ clause ∈ Expression.clauses expression, ∀ call ∈ clause.calls,
    call.IsNullCheck))

lemma Expression.AsksForEmptyName.isBlank_eq_false {expression : Text}
    (h : Expression.AsksForEmptyName expression) : expression.isBlank = false := by
  obtain ⟨clause, hclause, -⟩ := h
  rw [Bool.eq_false_iff]
  intro hblank
  have hnone : ((Text.unquotedPieces orOperator []).map Clause.parse).filter (!·.calls.isEmpty) = [] := rfl
  rw [Expression.clauses, Text.trim_eq_nil_iff.mpr hblank, hnone] at hclause
  exact absurd hclause List.not_mem_nil

namespace Dialect

variable {d : Dialect} {expression : Text}

/-- The answer to a call depends on the functions of a dialect alone. -/
lemma Answers.of_registry_eq {d' : Dialect} {branch : Text} {call : Call} {a : CallAnswer}
    (h : Answers d branch call a) (hregistry : d.registry = d'.registry) : Answers d' branch call a := by
  rw [Answers, ← hregistry]
  exact h

lemma exists_evaluation_of_fault?_eq_none (hregistry : d.registry = Registry.standard)
    (hvalid : d.fault? (some expression) = .ok none) (branch : Text) :
    ∃ e, d.evaluate (some expression) (some branch) = .ok e := by
  obtain ⟨plan, hplan, hevaluate⟩ := exists_plan_of_fault?_eq_none hvalid
  have hanswer : ∀ call res, d.registry.resolve call = .ok res →
      ∃ answer, res.overload.predicate branch res.values = .ok answer := by
    intro call res hres
    rw [hregistry] at hres
    exact exists_answer_of_resolve branch hres
  obtain ⟨e, houtcome, -⟩ := exists_follow_of_plan_eq_ok hplan hanswer
  exact ⟨e, (hevaluate (some branch)).trans houtcome⟩

/-- **The verdict on the empty name** is positive exactly for an expression that asks for it. -/
lemma verdict_empty_name_iff (hregistry : d.registry = Registry.standard) {e : Evaluation}
    (h : d.evaluate (some expression) (some []) = .ok e) :
    e.verdict = true ↔
      d.fault? (some expression) = .ok none ∧ Expression.AsksForEmptyName expression := by
  rw [evaluate] at h
  cases hplan : d.plan (some expression) with
  | error refusal =>
      rw [hplan] at h
      cases refusal with
      | fault fault =>
          obtain rfl := Except.ok.inj h
          have hfault : d.fault? (some expression) = .ok (some fault) := by rw [fault?, hplan]
          simp [Evaluation.verdict, hfault]
      | overlong => exact absurd h (by simp)
  | ok plan =>
      rw [hplan] at h
      obtain ⟨answers, hdispatched, rfl⟩ := follow_eq_ok_iff.mp h
      obtain ⟨-, hresolved⟩ := plan_eq_ok_iff.mp hplan
      have hanswered : List.Forall₂ (fun clause lines => List.Forall₂ (Answers d []) clause.calls lines)
          (Expression.clauses expression) answers :=
        (forall₂_dispatch_iff hresolved).mp hdispatched
      -- a clause and its lines agree on whether all of them are positive
      have hclause : ∀ (clause : Clause) (lines : List CallAnswer),
          List.Forall₂ (Answers d []) clause.calls lines →
          ((∀ call ∈ clause.calls, call.IsNullCheck) ↔ ∀ a ∈ lines, a.answer = true) :=
        fun _ _ hlines => Traversal.forall_mem_iff_of_forall₂ hlines fun _ _ ha =>
          (ha.of_registry_eq (hregistry : d.registry = standard.registry)).answer_iff_isNullCheck.symm
      rw [and_iff_right (fault?_eq_of_plan_eq_ok hplan), Expression.AsksForEmptyName,
        Traversal.exists_mem_iff_of_forall₂ hanswered hclause]
      simp only [Evaluation.verdict, List.any_eq_true, List.all_eq_true]

end Dialect

/-! ## Trimming -/

namespace RunInputs

/-- **Trimming takes the whole name away**: the name starts with the text to trim, apart from case, and is no
longer than this text. -/
def TrimsAll (i : RunInputs) : Prop :=
  i.trimFromStart.lower <+: i.branchName.lower ∧ i.branchName.length ≤ i.trimFromStart.length

lemma validatedBranch_eq_nil_iff {i : RunInputs} (hname : i.branchName ≠ []) :
    i.validatedBranch = [] ↔ i.TrimsAll := by
  have hlength : 0 < i.branchName.length := List.length_pos_iff.mpr hname
  rw [validatedBranch, TrimsAll, ← List.isPrefixOf_iff_prefix]
  cases hprefix : i.trimFromStart.lower.isPrefixOf i.branchName.lower with
  | false => simp [hname]
  | true =>
      by_cases hempty : i.trimFromStart = []
      · simp [hempty, hname]
      · simp [hempty]

end RunInputs

/-! ## Runs -/

namespace Validation

variable {v : Validation} {i : RunInputs} {t : Transcript}

/-- **A run approves its branch name**: it returns a positive result. -/
def Approves (v : Validation) (i : RunInputs) (t : Transcript) : Prop :=
  ∃ r, (v.run i t).2 = .ok r ∧ r.isValid = true

lemma evaluation_eq_ok_iff {d : Dialect} {e : Evaluation} :
    evaluation d i = .ok e ↔ Evaluates d i e := by
  refine ⟨fun h => ?_, Evaluates.evaluation_eq⟩
  rw [evaluation] at h
  cases hmissing : missingInput i with
  | some missing =>
      rw [hmissing] at h
      exact absurd h (by simp)
  | none =>
      obtain ⟨hname, hlogic⟩ := missingInput_eq_none_iff.mp hmissing
      rw [hmissing] at h
      cases houtcome : d.evaluate (some i.validationLogic) (some i.validatedBranch) with
      | error failure =>
          rw [houtcome] at h
          exact absurd h (by simp [Except.mapError])
      | ok e' =>
          rw [houtcome] at h
          obtain rfl := Except.ok.inj h
          exact ⟨hname, hlogic, houtcome⟩

/-- A run approves its branch name when it comes to an evaluation with a positive verdict. -/
lemma approves_iff : v.Approves i t ↔ ∃ e, Evaluates v.dialect i e ∧ e.verdict = true := by
  have hresult : (v.run i t).2 = (exitOf v.dialect i).result := by
    rw [run_eq_write_log]
    rfl
  rw [Approves, hresult, (ends_exitOf v.dialect i).isValid_iff, exitOf_verdict?]
  simp only [← evaluation_eq_ok_iff]
  cases evaluation v.dialect i <;> simp [Except.toOption]

/-- A positive output is set by the runs that approve their branch name. -/
lemma mem_outputsOf_log_iff :
    ("valid-branch", "true") ∈ outputsOf (log v.dialect i) ↔ v.Approves i t := by
  rw [outputsOf_log, approves_iff]
  simp only [← evaluation_eq_ok_iff]
  cases evaluation v.dialect i with
  | error e => simp
  | ok e => cases hverdict : e.verdict <;> simp [verdictOutput, hverdict]

/-- **The runs that approve the empty name.**  With the standard functions, a run whose name is trimmed to
nothing approves it exactly if there was a name, all of which is trimmed, and the expression has no fault and
asks for the empty name.  No run approves a name that is missing from the start, and a run sets the positive
output exactly if it approves its name. -/
theorem run_approves_empty_name_iff (hregistry : v.dialect.registry = Registry.standard) (i : RunInputs)
    (t : Transcript) :
    (v.Approves i t ∧ i.validatedBranch = [] ↔
      i.branchName ≠ [] ∧ i.TrimsAll ∧ v.dialect.fault? (some i.validationLogic) = .ok none ∧
        Expression.AsksForEmptyName i.validationLogic) ∧
    (v.Approves i t → i.branchName ≠ []) ∧
    ∃ log, (v.run i t).1 = v.console.write log t ∧
      (("valid-branch", "true") ∈ outputsOf log ↔ v.Approves i t) := by
  refine ⟨⟨?asked, ?approved⟩, ?named, log v.dialect i, ?written, mem_outputsOf_log_iff⟩
  case asked =>
    rintro ⟨happroved, hnothing⟩
    obtain ⟨e, he, hverdict⟩ := approves_iff.mp happroved
    have houtcome := he.outcome
    rw [hnothing] at houtcome
    exact ⟨he.branchName, (RunInputs.validatedBranch_eq_nil_iff he.branchName).mp hnothing,
      (Dialect.verdict_empty_name_iff hregistry houtcome).mp hverdict⟩
  case approved =>
    rintro ⟨hname, htrims, hvalid, hasks⟩
    have hnothing := (RunInputs.validatedBranch_eq_nil_iff hname).mpr htrims
    obtain ⟨e, houtcome⟩ := Dialect.exists_evaluation_of_fault?_eq_none hregistry hvalid []
    have hverdict := (Dialect.verdict_empty_name_iff hregistry houtcome).mpr ⟨hvalid, hasks⟩
    have hevaluates : Evaluates v.dialect i e :=
      ⟨hname, hasks.isBlank_eq_false, by rw [hnothing, houtcome]⟩
    exact ⟨approves_iff.mpr ⟨e, hevaluates, hverdict⟩, hnothing⟩
  case named =>
    intro happroved
    obtain ⟨e, he, -⟩ := approves_iff.mp happroved
    exact he.branchName
  case written =>
    rw [run_eq_write_log]

/-- The inputs of a run whose name is the text to trim, and whose expression asks for the empty name beside
another clause. -/
def whollyTrimmedInputs : RunInputs where
  branchName := "Main".toList
  validationLogic := "startsWith('v') || equalTo('') && equalTo( '' )".toList
  trimFromStart := "main".toList

theorem run_approves_empty_name_iff_wholly_trimmed :
    ({} : Validation).dialect.registry = Registry.standard ∧
      Validation.Approves {} whollyTrimmedInputs {} ∧ whollyTrimmedInputs.validatedBranch = [] := by
  have hname : whollyTrimmedInputs.branchName ≠ [] := by decide
  have htrims : whollyTrimmedInputs.TrimsAll :=
    (RunInputs.validatedBranch_eq_nil_iff hname).mp (by decide +kernel)
  have hvalid : Dialect.standard.fault? (some whollyTrimmedInputs.validationLogic) = .ok none := by
    decide +kernel
  have hasks : Expression.AsksForEmptyName whollyTrimmedInputs.validationLogic := by decide +kernel
  exact ⟨rfl, (run_approves_empty_name_iff (v := {}) rfl whollyTrimmedInputs {}).1.mpr
    ⟨hname, htrims, hvalid, hasks⟩⟩

/-- The inputs of a run whose name is the text to trim, and whose expression is a null check. -/
def emptiedInputs : RunInputs where
  branchName := "main".toList
  validationLogic := "equalTo('')".toList
  trimFromStart := "main".toList

/-- **A run can approve a name of which nothing is left.**  The name is there when the run asks for it, and the
expression is evaluated on what trimming leaves. -/
theorem run_approves_nothing_left :
    Validation.Approves {} emptiedInputs {} ∧
      outputsOf (log Dialect.standard emptiedInputs) = [("valid-branch", "true")] ∧
      emptiedInputs.validatedBranch = [] := by
  have houtcome : Dialect.standard.evaluate (some emptiedInputs.validationLogic)
      (some emptiedInputs.validatedBranch)
        = .ok (.decided true [⟨⟨"equalTo".toList, [.string]⟩, true, "equalTo('')".toList⟩]) := by
    decide +kernel
  have hevaluates := (⟨by decide, by decide, houtcome⟩ : Evaluates Dialect.standard emptiedInputs _)
  refine ⟨approves_iff.mpr ⟨_, hevaluates, rfl⟩, ?_, by decide +kernel⟩
  rw [outputsOf_log, hevaluates.evaluation_eq]
  rfl

end Validation

end BranchPolicy
