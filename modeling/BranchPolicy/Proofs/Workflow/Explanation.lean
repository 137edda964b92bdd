import BranchPolicy.Proofs.Evaluation.EmptyBranch
import BranchPolicy.Proofs.Shape.Check
import BranchPolicy.Proofs.Workflow.Sequence

/-!
# What explains a verdict

A branch name is turned down because of some call in every clause, and accepted because of all calls of
one clause.  An expression that passes the standard checks has calls, so that neither happens without a
line of the trace that says why, and the report of a name that is turned down is a list of these lines.

* `clauses_ne_nil_of_passes`, `calls_ne_nil_of_mem_clauses` — there are clauses, and calls in each.
* `Explains` — the lines of the trace, clause by clause, and what they have to do with the verdict.
* `exists_explains` — every outcome of an expression without a fault is explained.
* `rejectionReport` — negative lines under a heading, each on a line of its own.
* **`evaluate_explained`** — an outcome is explained, and a run that comes to a negative one reports the
  negative lines of its trace, in order, and no others.
-/

namespace BranchPolicy

namespace Expression

/-! ## Expressions have calls -/

lemma calls_ne_nil_of_mem_clauses {expression : Text} {clause : Clause}
    (h : clause ∈ clauses expression) : clause.calls ≠ [] := by
  obtain ⟨-, hcalls⟩ := List.mem_filter.mp h
  intro hnil
  rw [hnil] at hcalls
  exact absurd hcalls (by decide)

lemma clauses_ne_nil_of_passes {expression : Text}
    (h : firstShapeFault ShapeCheck.standard expression = none) : clauses expression ≠ [] := by
  intro hnil
  rw [clauses_eq_map_sourceGroups, List.map_eq_nil_iff] at hnil
  exact ne_nil_of_spread (spread_of_passes h) (by rw [hnil]; rfl)

lemma isBlank_of_passes {expression : Text}
    (h : firstShapeFault ShapeCheck.standard expression = none) : expression.isBlank = false :=
  Bool.eq_false_iff.mpr fun hblank => trim_ne_nil_of_passes h (Text.trim_eq_nil_iff.mpr hblank)

end Expression

/-! ## Explanations -/

/-- **What explains an outcome.**  There is a clause, every clause has lines, and each line is the answer
of a call; the trace is the lines of all clauses in order.  A negative verdict has a negative line in every
clause, and a positive one has a clause whose lines are all positive. -/
structure Explains (d : Dialect) (expression branch : Text) (answers : List (List CallAnswer))
    (outcome : Evaluation) : Prop where
  answered : List.Forall₂
    (fun clause lines => List.Forall₂ (d.Answers branch) clause.calls lines)
    (Expression.clauses expression) answers
  clauses : answers ≠ []
  lines : ∀ lines ∈ answers, lines ≠ []
  trace : outcome.trace = answers.flatten
  negative : outcome.verdict = false →
    (∀ lines ∈ answers, ∃ a ∈ lines, a.answer = false) ∧ outcome.failures ≠ []
  positive : outcome.verdict = true → ∃ lines ∈ answers, ∀ a ∈ lines, a.answer = true

/-- A negative line of some clause is among the failures. -/
lemma failures_ne_nil {answers : List (List CallAnswer)} {outcome : Evaluation}
    (htrace : outcome.trace = answers.flatten) (hne : answers ≠ [])
    (hnegative : ∀ lines ∈ answers, ∃ a ∈ lines, a.answer = false) : outcome.failures ≠ [] := by
  obtain ⟨lines, hlines⟩ := List.exists_mem_of_ne_nil answers hne
  obtain ⟨a, ha, hanswer⟩ := hnegative lines hlines
  have hmem : a ∈ outcome.failures := by
    rw [Evaluation.failures, htrace, List.mem_filter, hanswer]
    exact ⟨List.mem_flatten.mpr ⟨lines, hlines, ha⟩, rfl⟩
  exact List.ne_nil_of_mem hmem

lemma passes_of_fault?_eq_none {d : Dialect} {expression : Option Text}
    (hchecks : d.checks = ShapeCheck.standard) (hvalid : d.fault? expression = .ok none) :
    firstShapeFault ShapeCheck.standard (expression.getD []) = none := by
  obtain ⟨plan, hplan, -⟩ := Dialect.exists_plan_of_fault?_eq_none hvalid
  obtain ⟨hpassed, -⟩ := Dialect.plan_eq_ok_iff.mp hplan
  rw [← hchecks]
  exact Dialect.shapeFault?_eq_none_iff.mpr hpassed

/-- **Every outcome of an expression without a fault is explained.** -/
lemma exists_explains {d : Dialect} {expression branch : Option Text} {outcome : Evaluation}
    (hchecks : d.checks = ShapeCheck.standard) (hvalid : d.fault? expression = .ok none)
    (houtcome : d.evaluate expression branch = .ok outcome) :
    ∃ answers, Explains d (expression.getD []) (branch.getD []) answers outcome := by
  obtain ⟨plan, hplan, hevaluate⟩ := Dialect.exists_plan_of_fault?_eq_none hvalid
  obtain ⟨-, hresolved⟩ := Dialect.plan_eq_ok_iff.mp hplan
  rw [hevaluate] at houtcome
  obtain ⟨answers, hdispatched, rfl⟩ := Dialect.follow_eq_ok_iff.mp houtcome
  have hanswered := (Dialect.forall₂_dispatch_iff hresolved).mp hdispatched
  have hclauses : answers ≠ [] := by
    rintro rfl
    exact Expression.clauses_ne_nil_of_passes (passes_of_fault?_eq_none hchecks hvalid)
      (List.forall₂_nil_right_iff.mp hanswered)
  refine ⟨answers, hanswered, hclauses, ?lines, rfl, ?negative, ?positive⟩
  case lines =>
    rintro lines hlines rfl
    obtain ⟨clause, hclause, hcalls⟩ := Traversal.exists_of_mem_right hanswered hlines
    exact Expression.calls_ne_nil_of_mem_clauses hclause (List.forall₂_nil_right_iff.mp hcalls)
  case negative =>
    intro hverdict
    have hnegative : ∀ lines ∈ answers, ∃ a ∈ lines, a.answer = false := by
      intro lines hlines
      have hall := List.any_eq_false.mp hverdict lines hlines
      simpa only [List.all_eq_true, not_forall, Bool.not_eq_true, exists_prop] using hall
    exact ⟨hnegative, failures_ne_nil rfl hclauses hnegative⟩
  case positive =>
    intro hverdict
    obtain ⟨lines, hlines, hall⟩ := List.any_eq_true.mp hverdict
    exact ⟨lines, hlines, List.all_eq_true.mp hall⟩

/-! ## Reports -/

/-- The report of a branch name that is turned down: the negative lines of a trace under a heading, each
on a line of its own. -/
def rejectionReport (trace : List CallAnswer) : String :=
  String.join ("Branch Invalid\n\nFunction Results:" ::
    (trace.filter (!·.answer)).map fun a => "\n\t" ++ a.line)

/-- A separator before each line, or before the first one and between the others. -/
lemma append_intercalate (separator : String) {lines : List String} (hne : lines ≠ []) :
    separator ++ separator.intercalate lines = String.join (lines.map (separator ++ ·)) := by
  induction lines with
  | nil => exact absurd rfl hne
  | cons line lines ih =>
      rw [List.map_cons, String.join_cons]
      by_cases hrest : lines = []
      · rw [hrest, String.intercalate_singleton, List.map_nil, String.join_nil, String.append_empty]
      · rw [String.intercalate_cons_of_ne_nil hrest, String.append_assoc, ih hrest,
          String.append_assoc]

/-- With a negative line in the trace, the summary of a negative outcome is the report of such lines. -/
lemma summary_eq_rejectionReport {trace : List CallAnswer}
    (hne : (Evaluation.decided false trace).failures ≠ []) :
    (Evaluation.decided false trace).summary = rejectionReport trace := by
  have hlines : (trace.filter (!·.answer)).map (·.line) ≠ [] := by
    rw [Ne, List.map_eq_nil_iff]
    exact hne
  have htitle : "Branch Invalid" ++ "\n\nFunction Results:\n\t"
      = "Branch Invalid\n\nFunction Results:" ++ "\n\t" := by decide
  rw [Evaluation.summary, resultReport, htitle, String.append_assoc, append_intercalate _ hlines,
    List.map_map, rejectionReport, String.join_cons]
  rfl

/-- A run on an expression and a branch name comes to their evaluation. -/
lemma evaluation_eq_of_passes {d : Dialect} {i : RunInputs} {expression branch : Option Text}
    (hbranch : i.branchName ≠ []) (hlogic : i.validationLogic = expression.getD [])
    (hvalidated : i.validatedBranch = branch.getD [])
    (hblank : (expression.getD []).isBlank = false) {outcome : Evaluation}
    (houtcome : d.evaluate expression branch = .ok outcome) :
    Validation.evaluation d i = .ok outcome := by
  have hmissing : Validation.missingInput i = none :=
    Validation.missingInput_eq_none_iff.mpr ⟨hbranch, hlogic ▸ hblank⟩
  have hsame : d.evaluate (some (expression.getD [])) (some (branch.getD []))
      = d.evaluate expression branch := by
    cases expression <;> cases branch <;> rfl
  rw [Validation.evaluation, hmissing, hlogic, hvalidated, hsame, houtcome]
  rfl

/-- **An outcome is explained, and so is it reported.**  For every registry, every expression that is found
without a fault under the standard checks, and every branch name: if the evaluation comes to an outcome,
the outcome is explained.  If the verdict is negative, every run on this expression and this name, raising
or not, gives the report that lists the negative lines of the trace, in order, and no others. -/
theorem evaluate_explained {r : Registry} {expression branch : Option Text} {outcome : Evaluation}
    (hvalid : ({ registry := r } : Dialect).fault? expression = .ok none)
    (houtcome : ({ registry := r } : Dialect).evaluate expression branch = .ok outcome) :
    (∃ answers, Explains { registry := r } (expression.getD []) (branch.getD []) answers outcome) ∧
    (outcome.verdict = false → ∀ (v : Validation) (i : RunInputs) (t : Transcript),
      v.dialect = { registry := r } → i.branchName ≠ [] →
      i.validationLogic = expression.getD [] → i.validatedBranch = branch.getD [] →
      (v.run i t).2 =
        if i.failWhenNotValid then .error (.invalidBranch (rejectionReport outcome.trace))
        else .ok ⟨false, rejectionReport outcome.trace, outcome⟩) := by
  obtain ⟨answers, hexplains⟩ := exists_explains rfl hvalid houtcome
  refine ⟨⟨answers, hexplains⟩, ?reports⟩
  intro hverdict v i t hdialect hbranch hlogic hvalidated
  obtain ⟨-, hfailures⟩ := hexplains.negative hverdict
  have hblank := Expression.isBlank_of_passes (passes_of_fault?_eq_none rfl hvalid)
  have hevaluation := evaluation_eq_of_passes hbranch hlogic hvalidated hblank houtcome
  rw [Validation.run_eq_write_log, Validation.result, hdialect, hevaluation]
  cases outcome with
  | rejected fault => exact absurd rfl hfailures
  | decided verdict trace =>
      obtain rfl : verdict = false := hverdict
      simp only [Except.bind, Validation.deliver, Evaluation.asError,
        summary_eq_rejectionReport hfailures]
      cases i.failWhenNotValid <;> rfl

/-- The inputs of a run on a name that fails a call in each clause, and satisfies the last call. -/
def explainedInputs : RunInputs where
  branchName := "develop".toList
  validationLogic := "startsWith('feature/') || equalTo('main') && lenLessThan(9)".toList

/-- The answers of the calls in that run. -/
def explainedTrace : List CallAnswer :=
  [⟨⟨"startsWith".toList, [.string]⟩, false, "startsWith('feature/')".toList⟩,
    ⟨⟨"equalTo".toList, [.string]⟩, false, "equalTo('main')".toList⟩,
    ⟨⟨"lenLessThan".toList, [.number]⟩, true, "lenLessThan(9)".toList⟩]

/-- The report leaves out the positive line, which does not save its clause. -/
theorem evaluate_explained_mixed_clause :
    Dialect.standard.fault? (some explainedInputs.validationLogic) = .ok none ∧
    Dialect.standard.evaluate (some explainedInputs.validationLogic) (some explainedInputs.branchName)
      = .ok (.decided false explainedTrace) ∧
    (∃ answers, Explains Dialect.standard explainedInputs.validationLogic explainedInputs.branchName
      answers (.decided false explainedTrace)) ∧
    (Validation.run {} explainedInputs {}).2 = .error (.invalidBranch
      ("Branch Invalid\n\nFunction Results:" ++ "\n\tstartsWith(string) -> false" ++
        "\n\tequalTo(string) -> false")) := by
  have hvalid : Dialect.standard.fault? (some explainedInputs.validationLogic) = .ok none := by
    decide +kernel
  have houtcome : Dialect.standard.evaluate (some explainedInputs.validationLogic)
      (some explainedInputs.branchName) = .ok (.decided false explainedTrace) := by
    decide +kernel
  obtain ⟨hexplains, hreports⟩ := evaluate_explained hvalid houtcome
  have hreport : rejectionReport explainedTrace
      = "Branch Invalid\n\nFunction Results:" ++ "\n\tstartsWith(string) -> false" ++
        "\n\tequalTo(string) -> false" := by
    decide +kernel
  refine ⟨hvalid, houtcome, hexplains, ?_⟩
  rw [hreports rfl {} explainedInputs {} rfl (by decide) rfl rfl, ← hreport]
  rfl

end BranchPolicy
