import BranchPolicy.Evaluation
import BranchPolicy.Proofs.Expression.Extraction
import BranchPolicy.Proofs.Resolution
import BranchPolicy.Proofs.Traversal

/-!
# Evaluation against a reference semantics

`Dialect.evaluate` plans first and dispatches afterwards, clause by clause, with the first obstacle
ending the whole run.  The reference semantics below is written without plans, monads or loops: it
only says which texts, checks, calls and answers stand in which relation.

* `FirstFault` — the fault of an expression: the first check that fails, or else the first call
  that does not resolve.
* `Answers` — a line of the trace belongs to a call.
* `Reference` — the outcomes that the reference semantics allows.
* `plan_eq_fault_iff`, `plan_eq_ok_iff` — what a plan is, in these terms.
* `exists_follow_of_plan_eq_ok` — a plan whose functions all answer can be followed to an outcome.
* **`evaluate_eq_reference`** — evaluation returns the one outcome that the reference allows, and
  it agrees with `Dialect.fault?`.
-/

namespace BranchPolicy.Dialect

/-! ## The reference semantics -/

/-- **The fault of an expression.**  The checks run in their order on the trimmed text, and the
first that fails has the say.  When all pass, it is the first call of the expression, from left to
right, that does not resolve. -/
inductive FirstFault (d : Dialect) (expression : Text) : Fault → Prop
  | shape {before after : List ShapeCheck} {check : ShapeCheck} {fault : ShapeFault}
      (split : d.checks = before ++ check :: after)
      (passed : ∀ earlier ∈ before, earlier expression.trim = none)
      (failed : check expression.trim = some fault) : FirstFault d expression (.shape fault)
  | call {before after : List Call} {call : Call} {fault : Fault}
      (passed : ∀ check ∈ d.checks, check expression.trim = none)
      (split : Expression.calls expression = before ++ call :: after)
      (resolved : ∀ earlier ∈ before, ∃ res, d.registry.resolve earlier = .ok res)
      (failed : d.registry.resolve call = .error (.fault fault)) : FirstFault d expression fault

/-- A line of the trace belongs to a call: it holds the text of the call, the signature of the
overload that the call resolves to, and what the predicate of that overload answers for the branch
name and the values of the arguments. -/
def Answers (d : Dialect) (branch : Text) (call : Call) (answer : CallAnswer) : Prop :=
  ∃ res, d.registry.resolve call = .ok res ∧
    call.arguments.map Argument.value = res.values.map (fun v => .ok (some v)) ∧
    res.overload.predicate branch res.values = .ok answer.answer ∧
    answer.signature = res.overload.signature ∧ answer.call = call.source

/-- **The reference semantics.**  An expression with a fault is rejected with it: the verdict is
negative and nothing is answered.  Any other expression has one line of the trace for each call, in
order, and the verdict is positive when all lines of some clause are. -/
inductive Reference (d : Dialect) (expression branch : Text) (outcome : Evaluation) : Prop
  | rejected {fault : Fault} (first : FirstFault d expression fault)
      (hfault : outcome.fault? = some fault) (hverdict : outcome.verdict = false)
      (htrace : outcome.trace = [])
  | decided {answers : List (List CallAnswer)}
      (passed : ∀ check ∈ d.checks, check expression.trim = none)
      (answered : List.Forall₂ (fun clause lines => List.Forall₂ (Answers d branch) clause.calls lines)
        (Expression.clauses expression) answers)
      (hfault : outcome.fault? = none) (htrace : outcome.trace = answers.flatten)
      (hverdict : outcome.verdict = answers.any (·.all (·.answer)))

/-! ## Plans in the terms of the reference -/

lemma shapeFault?_eq_none_iff {d : Dialect} {expression : Option Text} :
    d.shapeFault? expression = none ↔
      ∀ check ∈ d.checks, check (expression.getD []).trim = none :=
  List.findSome?_eq_none_iff

lemma shapeFault?_eq_some_iff {d : Dialect} {expression : Option Text} {fault : ShapeFault} :
    d.shapeFault? expression = some fault ↔
      ∃ before check after, d.checks = before ++ check :: after ∧
        check (expression.getD []).trim = some fault ∧
        ∀ earlier ∈ before, earlier (expression.getD []).trim = none := by
  rw [shapeFault?, firstShapeFault, List.findSome?_eq_some_iff]

/-- Resolving the clauses fails as resolving all calls in order does. -/
lemma resolveClauses_eq_error_iff {d : Dialect} {expression : Text} {refusal : Refusal} :
    d.resolveClauses (Expression.clauses expression) = .error refusal ↔
      ∃ before call after, Expression.calls expression = before ++ call :: after ∧
        (∀ earlier ∈ before, ∃ res, d.registry.resolve earlier = .ok res) ∧
        d.registry.resolve call = .error refusal := by
  have hok : ∀ c, (∃ rc, d.resolveCall c = .ok rc) ↔ ∃ res, d.registry.resolve c = .ok res := by
    intro c
    cases h : d.registry.resolve c <;> simp [resolveCall, h, Except.map]
  have herror : ∀ c, d.resolveCall c = .error refusal ↔ d.registry.resolve c = .error refusal := by
    intro c
    cases h : d.registry.resolve c <;> simp [resolveCall, h, Except.map]
  rw [resolveClauses, Traversal.mapM_mapM_eq_error_iff, Traversal.mapM_eq_error_iff]
  simp only [hok, herror, Expression.calls]

/-- **A plan fails with a fault exactly when the fault is the first one.** -/
theorem plan_eq_fault_iff {d : Dialect} {expression : Option Text} {fault : Fault} :
    d.plan expression = .error (.fault fault) ↔ FirstFault d (expression.getD []) fault := by
  rw [plan]
  constructor
  · intro h
    cases hshape : d.shapeFault? expression with
    | some shapeFault =>
        rw [hshape] at h
        obtain ⟨before, check, after, hsplit, hfailed, hpassed⟩ :=
          shapeFault?_eq_some_iff.mp hshape
        obtain rfl : Fault.shape shapeFault = fault := by simpa using h
        exact FirstFault.shape hsplit hpassed hfailed
    | none =>
        rw [hshape] at h
        obtain ⟨before, call, after, hsplit, hresolved, hfailed⟩ :=
          resolveClauses_eq_error_iff.mp h
        exact FirstFault.call (shapeFault?_eq_none_iff.mp hshape) hsplit hresolved hfailed
  · rintro (⟨hsplit, hpassed, hfailed⟩ | ⟨hpassed, hsplit, hresolved, hfailed⟩)
    · rw [shapeFault?_eq_some_iff.mpr ⟨_, _, _, hsplit, hfailed, hpassed⟩]
    · rw [shapeFault?_eq_none_iff.mpr hpassed]
      exact resolveClauses_eq_error_iff.mpr ⟨_, _, _, hsplit, hresolved, hfailed⟩

/-- **A plan is made exactly when all checks pass and all calls resolve**; it holds the calls in
order with their resolutions. -/
theorem plan_eq_ok_iff {d : Dialect} {expression : Option Text} {plan : List (List ResolvedCall)} :
    d.plan expression = .ok plan ↔
      (∀ check ∈ d.checks, check (expression.getD []).trim = none) ∧
      List.Forall₂ (fun clause calls => List.Forall₂ (fun call rc => d.resolveCall call = .ok rc)
        clause.calls calls) (Expression.clauses (expression.getD [])) plan := by
  rw [Dialect.plan, ← shapeFault?_eq_none_iff]
  cases hshape : d.shapeFault? expression with
  | some fault => simp
  | none => simp [resolveClauses, Traversal.mapM_eq_ok_iff]

/-- An expression whose numbers can all be read is not refused for one that cannot. -/
lemma plan_ne_overlong {d : Dialect} {expression : Option Text}
    (hshort : ∀ call ∈ Expression.calls (expression.getD []), Readable call.arguments) :
    d.plan expression ≠ .error .overlong := by
  rw [plan]
  cases d.shapeFault? expression with
  | some fault => simp
  | none =>
      intro h
      obtain ⟨before, call, after, hsplit, -, hfailed⟩ := resolveClauses_eq_error_iff.mp h
      exact resolve_ne_overlong (hshort call (by simp [hsplit])) hfailed

lemma fault?_eq_of_plan_eq_fault {d : Dialect} {expression : Option Text} {fault : Fault}
    (h : d.plan expression = .error (.fault fault)) : d.fault? expression = .ok (some fault) := by
  rw [fault?, h]

lemma fault?_eq_of_plan_eq_ok {d : Dialect} {expression : Option Text}
    {plan : List (List ResolvedCall)} (h : d.plan expression = .ok plan) :
    d.fault? expression = .ok none := by
  rw [fault?, h]

/-- An expression without a fault has a plan, and evaluating the expression follows it. -/
lemma exists_plan_of_fault?_eq_none {d : Dialect} {expression : Option Text}
    (h : d.fault? expression = .ok none) :
    ∃ plan, d.plan expression = .ok plan ∧
      ∀ branch, d.evaluate expression branch = follow plan (branch.getD []) := by
  rw [fault?] at h
  cases hplan : d.plan expression with
  | ok plan =>
      refine ⟨plan, rfl, fun branch => ?_⟩
      rw [evaluate, hplan]
  | error refusal =>
      rw [hplan] at h
      cases refusal <;> exact absurd h (by simp)

/-! ## Dispatching in the terms of the reference -/

lemma resolveCall_eq_ok_iff {d : Dialect} {call : Call} {rc : ResolvedCall} :
    d.resolveCall call = .ok rc ↔ rc.call = call ∧ d.registry.resolve call = .ok rc.resolution := by
  obtain ⟨call', res⟩ := rc
  cases h : d.registry.resolve call <;> simp [resolveCall, h, Except.map, eq_comm]

lemma exists_resolve_of_plan_eq_ok {d : Dialect} {expression : Option Text}
    {plan : List (List ResolvedCall)} (h : d.plan expression = .ok plan) :
    ∀ call ∈ Expression.calls (expression.getD []), ∃ res, d.registry.resolve call = .ok res := by
  intro call hcall
  obtain ⟨-, hresolved⟩ := plan_eq_ok_iff.mp h
  obtain ⟨clause, hclause, hcall⟩ := List.mem_flatMap.mp hcall
  obtain ⟨rcs, -, hrcs⟩ := Traversal.exists_of_mem_left hresolved hclause
  obtain ⟨rc, -, hrc⟩ := Traversal.exists_of_mem_left hrcs hcall
  exact ⟨rc.resolution, (resolveCall_eq_ok_iff.mp hrc).2⟩

lemma dispatch_eq_ok_iff {d : Dialect} {expression branch : Text} {call : Call} {rc : ResolvedCall}
    {answer : CallAnswer} (hcall : call ∈ Expression.calls expression)
    (hrc : d.resolveCall call = .ok rc) :
    dispatch branch rc = .ok answer ↔ Answers d branch call answer := by
  obtain ⟨rfl, hres⟩ := resolveCall_eq_ok_iff.mp hrc
  have hsource : rc.call.render = rc.call.source :=
    Expression.render_eq_source_of_mem_calls hcall
  have hvalues := (resolves_of_resolve hres).fits.map_value
  constructor
  · intro h
    rw [dispatch] at h
    split at h
    · next verdict hverdict =>
        obtain rfl := Except.ok.inj h
        exact ⟨rc.resolution, hres, hvalues, hverdict, rfl, hsource⟩
    · exact absurd h (by simp)
  · rintro ⟨res, hres', -, hverdict, hsignature, htext⟩
    obtain rfl : rc.resolution = res := Except.ok.inj (hres.symm.trans hres')
    rw [dispatch, hverdict, hsource, ← hsignature, ← htext]

/-- Following a plan walks over all its calls; none is skipped. -/
lemma follow_eq_ok_iff {plan : List (List ResolvedCall)} {branch : Text} {outcome : Evaluation} :
    follow plan branch = .ok outcome ↔
      ∃ answers, List.Forall₂ (List.Forall₂ fun rc a => dispatch branch rc = .ok a) plan answers ∧
        outcome = .decided (answers.any (·.all (·.answer))) answers.flatten := by
  have hwalk : ∀ answers, plan.mapM (fun calls => calls.mapM (dispatch branch)) = .ok answers ↔
      List.Forall₂ (List.Forall₂ fun rc a => dispatch branch rc = .ok a) plan answers := by
    intro answers
    simp only [Traversal.mapM_eq_ok_iff]
  simp only [← hwalk, follow]
  cases plan.mapM (fun calls => calls.mapM (dispatch branch)) with
  | error e => simp [bind, Except.bind]
  | ok answers => simp [bind, Except.bind, pure, Except.pure, eq_comm]

lemma exists_follow_eq_ok {plan : List (List ResolvedCall)} {branch : Text}
    (h : ∀ calls ∈ plan, ∀ rc ∈ calls, ∃ answer, dispatch branch rc = .ok answer) :
    ∃ outcome, follow plan branch = .ok outcome := by
  have hclause : ∀ calls ∈ plan, ∃ lines, calls.mapM (dispatch branch) = .ok lines :=
    fun calls hcalls => Traversal.exists_mapM_eq_ok (h calls hcalls)
  obtain ⟨answers, hanswers⟩ := Traversal.exists_mapM_eq_ok hclause
  exact ⟨.decided (answers.any (·.all (·.answer))) answers.flatten, by rw [follow, hanswers]; rfl⟩

/-- A plan whose functions all answer can be followed to an outcome without a fault. -/
lemma exists_follow_of_plan_eq_ok {d : Dialect} {expression : Option Text} {branch : Text}
    {plan : List (List ResolvedCall)} (h : d.plan expression = .ok plan)
    (hanswer : ∀ call res, d.registry.resolve call = .ok res →
      ∃ answer, res.overload.predicate branch res.values = .ok answer) :
    ∃ outcome, follow plan branch = .ok outcome ∧ outcome.fault? = none := by
  obtain ⟨-, hresolved⟩ := plan_eq_ok_iff.mp h
  have hdispatch : ∀ rcs ∈ plan, ∀ rc ∈ rcs, ∃ answer, dispatch branch rc = .ok answer := by
    intro rcs hrcs rc hrc
    obtain ⟨clause, -, hclause⟩ := Traversal.exists_of_mem_right hresolved hrcs
    obtain ⟨call, -, hcall⟩ := Traversal.exists_of_mem_right hclause hrc
    obtain ⟨answer, hpredicate⟩ := hanswer call rc.resolution (resolveCall_eq_ok_iff.mp hcall).2
    exact ⟨⟨rc.resolution.overload.signature, answer, rc.call.render⟩, by rw [dispatch, hpredicate]⟩
  obtain ⟨outcome, houtcome⟩ := exists_follow_eq_ok hdispatch
  obtain ⟨answers, -, rfl⟩ := follow_eq_ok_iff.mp houtcome
  exact ⟨_, houtcome, rfl⟩

lemma not_firstFault_of_answered {d : Dialect} {expression branch : Text} {fault : Fault}
    {answers : List (List CallAnswer)}
    (passed : ∀ check ∈ d.checks, check expression.trim = none)
    (answered : List.Forall₂ (fun clause lines => List.Forall₂ (Answers d branch) clause.calls lines)
      (Expression.clauses expression) answers) : ¬ FirstFault d expression fault := by
  rintro (⟨hsplit, -, hfailed⟩ | ⟨-, hsplit, -, hfailed⟩)
  · next before after check shapeFault =>
      rw [passed check (by simp [hsplit])] at hfailed
      exact absurd hfailed (by simp)
  · next before after call =>
      have hmem : call ∈ Expression.calls expression := by simp [hsplit]
      obtain ⟨clause, hclause, hcall⟩ := List.mem_flatMap.mp hmem
      obtain ⟨lines, -, hlines⟩ := Traversal.exists_of_mem_left answered hclause
      obtain ⟨answer, -, res, hres, -⟩ := Traversal.exists_of_mem_left hlines hcall
      exact absurd (hres.symm.trans hfailed) (by simp)

/-! ## The equivalence -/

/-- An outcome is settled by its fault, its verdict and its trace. -/
lemma eq_rejected_iff {outcome : Evaluation} {fault : Fault} :
    outcome = .rejected fault ↔ outcome.fault? = some fault := by
  cases outcome <;> simp [Evaluation.fault?]

lemma eq_decided_iff {outcome : Evaluation} {verdict : Bool} {trace : List CallAnswer} :
    outcome = .decided verdict trace ↔
      outcome.fault? = none ∧ outcome.trace = trace ∧ outcome.verdict = verdict := by
  cases outcome <;> simp [Evaluation.fault?, Evaluation.trace, Evaluation.verdict, and_comm]

/-- **Evaluation equals the reference semantics.**  For every registry, every list of checks, every
expression and every branch name, provided that no number of the expression is too long to be read
and that no predicate of an expression without a fault fails: evaluation ends with an outcome, the
outcome reports the fault that checking alone reports, and it is the only one that the reference
semantics allows. -/
theorem evaluate_eq_reference (d : Dialect) (expression branch : Option Text)
    (hshort : ∀ call ∈ Expression.calls (expression.getD []), Readable call.arguments)
    (hanswer : d.fault? expression = .ok none →
      ∀ call ∈ Expression.calls (expression.getD []), ∀ res, d.registry.resolve call = .ok res →
        ∃ answer, res.overload.predicate (branch.getD []) res.values = .ok answer) :
    ∃ outcome, d.evaluate expression branch = .ok outcome ∧
      d.fault? expression = .ok outcome.fault? ∧
      ∀ other, Reference d (expression.getD []) (branch.getD []) other ↔ other = outcome := by
  cases hplan : d.plan expression with
  | error refusal =>
      cases refusal with
      | overlong => exact absurd hplan (plan_ne_overlong hshort)
      | fault fault =>
          have hfirst := plan_eq_fault_iff.mp hplan
          refine ⟨.rejected fault, by rw [evaluate, hplan], fault?_eq_of_plan_eq_fault hplan, ?_⟩
          intro other
          constructor
          · rintro (⟨hfirst', hfault, -, -⟩ | ⟨passed, answered, -, -, -⟩)
            · have hplan' := plan_eq_fault_iff.mpr hfirst'
              rw [hplan] at hplan'
              obtain rfl := Refusal.fault.inj (Except.error.inj hplan')
              exact eq_rejected_iff.mpr hfault
            · exact absurd hfirst (not_firstFault_of_answered passed answered)
          · rintro rfl
            exact Reference.rejected hfirst rfl rfl rfl
  | ok plan =>
      obtain ⟨passed, hresolved⟩ := plan_eq_ok_iff.mp hplan
      -- what the plan dispatches is what the reference calls the answers of the clauses
      have hanswers : ∀ answers,
          List.Forall₂ (List.Forall₂ fun rc a => dispatch (branch.getD []) rc = .ok a) plan answers ↔
          List.Forall₂ (fun clause lines => List.Forall₂ (Answers d (branch.getD [])) clause.calls
            lines) (Expression.clauses (expression.getD [])) answers := by
        intro answers
        refine Traversal.forall₂_iff_of_forall₂ hresolved fun clause hclause calls hcalls lines => ?_
        refine Traversal.forall₂_iff_of_forall₂ hcalls fun call hcall rc hrc answer => ?_
        exact dispatch_eq_ok_iff (List.mem_flatMap.mpr ⟨clause, hclause, hcall⟩) hrc
      have hfault := fault?_eq_of_plan_eq_ok hplan
      obtain ⟨outcome, houtcome⟩ : ∃ outcome, follow plan (branch.getD []) = .ok outcome := by
        refine exists_follow_eq_ok fun calls hcalls rc hrc => ?_
        obtain ⟨clause, hclause, hrelated⟩ := Traversal.exists_of_mem_right hresolved hcalls
        obtain ⟨call, hcall, hrc'⟩ := Traversal.exists_of_mem_right hrelated hrc
        obtain ⟨rfl, hres⟩ := resolveCall_eq_ok_iff.mp hrc'
        have hmem := List.mem_flatMap.mpr ⟨clause, hclause, hcall⟩
        obtain ⟨answer, hpredicate⟩ := hanswer hfault rc.call hmem rc.resolution hres
        exact ⟨⟨rc.resolution.overload.signature, answer, rc.call.render⟩,
          by rw [dispatch, hpredicate]⟩
      obtain ⟨answers, hdispatched, rfl⟩ := follow_eq_ok_iff.mp houtcome
      refine ⟨.decided (answers.any (·.all (·.answer))) answers.flatten,
        by rw [evaluate, hplan]; exact houtcome, hfault, ?_⟩
      intro other
      constructor
      · rintro (⟨hfirst, -, -, -⟩ | ⟨-, answered, hnone, htrace, hverdict⟩)
        · rw [plan_eq_fault_iff.mpr hfirst] at hplan
          exact absurd hplan (by simp)
        · have hother : follow plan (branch.getD []) = .ok other :=
            follow_eq_ok_iff.mpr ⟨_, (hanswers _).mpr answered,
              eq_decided_iff.mpr ⟨hnone, htrace, hverdict⟩⟩
          exact Except.ok.inj (hother.symm.trans houtcome)
      · rintro rfl
        exact Reference.decided passed ((hanswers answers).mp hdispatched) rfl rfl rfl

/-- The equivalence at an expression of two clauses, with a predicate that answers negatively. -/
theorem evaluate_eq_reference_feature_or_develop :
    ∃ outcome,
      standard.evaluate (some "startsWith('feature/') && isCharNum(9) || equalTo('develop')".toList)
        (some "feature/1".toList) = .ok outcome ∧
      standard.fault?
        (some "startsWith('feature/') && isCharNum(9) || equalTo('develop')".toList)
        = .ok outcome.fault? ∧
      ∀ other, Reference standard
        "startsWith('feature/') && isCharNum(9) || equalTo('develop')".toList
        "feature/1".toList other ↔ other = outcome := by
  have hcalls : Expression.calls
      "startsWith('feature/') && isCharNum(9) || equalTo('develop')".toList
        = [Call.parse "startsWith('feature/')".toList, Call.parse "isCharNum(9)".toList,
          Call.parse "equalTo('develop')".toList] := by decide
  refine evaluate_eq_reference standard (some _) (some _) ?_ ?_
  · rw [Option.getD_some, hcalls]
    have hshort : ∀ call ∈ [Call.parse "startsWith('feature/')".toList,
        Call.parse "isCharNum(9)".toList, Call.parse "equalTo('develop')".toList],
        ∀ a ∈ call.arguments, a.render.length ≤ mostDigits := by decide
    exact fun call hcall digits hdigits _ => hshort call hcall (.number digits) hdigits
  · intro _ call hcall res hres
    rw [Option.getD_some, hcalls] at hcall
    simp only [List.mem_cons, List.not_mem_nil, or_false] at hcall
    rcases hcall with rfl | rfl | rfl
    all_goals
      obtain rfl := Except.ok.inj hres
      exact ⟨_, rfl⟩

end BranchPolicy.Dialect
