import BranchPolicy.Proofs.Evaluation.Disjunction

/-!
# Failing predicates

A predicate may fail instead of answering.  The evaluation of an expression without a fault then fails as
well, whatever the other calls answer, and it reports the call whose predicate fails first.  Of an
expression with a fault no predicate is asked: the outcome is the same with any other predicates.

* `Registry.withPredicates`, `Dialect.withPredicates` — the same functions with other predicates.
* `resolve_withPredicates` — a call resolves to the same overload with its other predicate, or not at all
  for the same reason.
* **`fault?_withPredicates`** — checking an expression asks no predicate.
* `FirstFailing` — the first call, from left to right, whose predicate fails.
* **`follow_eq_error_iff`** — following a plan fails with the first failing predicate.
* `SurfacesFailures` — what an evaluation makes of failing predicates.
* **`surfacesFailures`** — every evaluation of an expression whose numbers can be read does so.
-/

namespace BranchPolicy

/-! ## Other predicates -/

/-- The overload with the predicate that `p` gives it. -/
def Overload.withPredicate (p : Overload → Predicate) (o : Overload) : Overload :=
  { o with predicate := p o }

/-- The registry with the predicates that `p` gives its overloads. -/
def Registry.withPredicates (p : Overload → Predicate) (r : Registry) : Registry where
  functions := r.functions.map fun (name, overloads) => (name, overloads.map (·.withPredicate p))

/-- The dialect with the predicates that `p` gives its functions. -/
def Dialect.withPredicates (p : Overload → Predicate) (d : Dialect) : Dialect :=
  { d with registry := d.registry.withPredicates p }

section Resolution

variable {p : Overload → Predicate}

lemma Registry.overloads_withPredicates (r : Registry) (name : Text) :
    (r.withPredicates p).overloads name = (r.overloads name).map (·.withPredicate p) := by
  obtain ⟨groups⟩ := r
  simp only [overloads, withPredicates]
  induction groups with
  | nil => rfl
  | cons group groups ih =>
      rw [List.map_cons, Grouping.get, Grouping.get]
      split
      · rfl
      · exact ih

lemma chooseOverload_withPredicate (function : Text) (as : List Argument) (closest : Nat)
    (os : List Overload) :
    chooseOverload function as closest (os.map (·.withPredicate p))
      = (chooseOverload function as closest os).map
          fun res => ⟨res.overload.withPredicate p, res.values⟩ := by
  fun_induction chooseOverload function as closest os with
  | case1 closest => rfl
  | case2 closest o os hfit =>
      rw [List.map_cons, chooseOverload, Overload.withPredicate, hfit]
      rfl
  | case3 closest o os values hfit =>
      rw [List.map_cons, chooseOverload, Overload.withPredicate, hfit]
      rfl
  | case4 closest o os position hfit ih =>
      rw [List.map_cons, chooseOverload, Overload.withPredicate, hfit]
      exact ih

/-- **A call resolves with other predicates as it did before**: to the same overload, but for its
predicate, and with the same values, or not at all for the same reason. -/
theorem Registry.resolve_withPredicates (r : Registry) (c : Call) :
    (r.withPredicates p).resolve c
      = (r.resolve c).map fun res => ⟨res.overload.withPredicate p, res.values⟩ := by
  have hcandidates : ((r.overloads c.name).map (·.withPredicate p)).filter
        (·.arity == c.arguments.length)
      = ((r.overloads c.name).filter (·.arity == c.arguments.length)).map (·.withPredicate p) := by
    rw [List.filter_map]
    rfl
  have harities : arities ((r.overloads c.name).map (·.withPredicate p))
      = arities (r.overloads c.name) := by
    rw [arities, List.map_map]
    rfl
  rw [resolve_eq, resolve_eq, overloads_withPredicates, hcandidates, harities]
  simp only [List.map_eq_nil_iff]
  split_ifs
  · rfl
  · rfl
  · rfl
  · exact chooseOverload_withPredicate _ _ _ _

end Resolution

namespace Dialect

/-! ## Checking asks no predicate -/

/-- What stands in the way of a plan has nothing to do with the predicates. -/
lemma plan_withPredicates_eq_error_iff {d : Dialect} {expression : Option Text} {refusal : Refusal}
    (p : Overload → Predicate) :
    (d.withPredicates p).plan expression = .error refusal ↔ d.plan expression = .error refusal := by
  have hok : ∀ c, (∃ res, (d.withPredicates p).registry.resolve c = .ok res) ↔
      ∃ res, d.registry.resolve c = .ok res := by
    intro c
    rw [withPredicates, Registry.resolve_withPredicates]
    cases d.registry.resolve c <;> simp [Except.map]
  have herror : ∀ c, (d.withPredicates p).registry.resolve c = .error refusal ↔
      d.registry.resolve c = .error refusal := by
    intro c
    rw [withPredicates, Registry.resolve_withPredicates]
    cases d.registry.resolve c <;> simp [Except.map]
  have hshape : (d.withPredicates p).shapeFault? expression = d.shapeFault? expression := rfl
  rw [plan, plan, hshape]
  cases d.shapeFault? expression with
  | some fault => exact Iff.rfl
  | none =>
      rw [resolveClauses_eq_error_iff, resolveClauses_eq_error_iff]
      simp only [hok, herror]

/-- **Checking an expression asks no predicate.** -/
theorem fault?_withPredicates (d : Dialect) (expression : Option Text) (p : Overload → Predicate) :
    (d.withPredicates p).fault? expression = d.fault? expression := by
  cases hplan : d.plan expression with
  | error refusal =>
      rw [fault?, fault?, hplan, (plan_withPredicates_eq_error_iff p).mpr hplan]
  | ok plan =>
      cases hplan' : (d.withPredicates p).plan expression with
      | error refusal =>
          rw [(plan_withPredicates_eq_error_iff p).mp hplan'] at hplan
          exact absurd hplan (by simp)
      | ok plan' => rw [fault?_eq_of_plan_eq_ok hplan, fault?_eq_of_plan_eq_ok hplan']

/-- An expression with a fault is rejected with it. -/
lemma evaluate_of_fault?_eq_some {d : Dialect} {expression : Option Text} {fault : Fault}
    (h : d.fault? expression = .ok (some fault)) (branch : Option Text) :
    d.evaluate expression branch = .ok (.rejected fault) := by
  cases hplan : d.plan expression with
  | ok plan =>
      rw [fault?_eq_of_plan_eq_ok hplan] at h
      exact absurd h (by simp)
  | error refusal =>
      cases refusal with
      | overlong =>
          rw [fault?, hplan] at h
          exact absurd h (by simp)
      | fault fault' =>
          rw [fault?_eq_of_plan_eq_fault hplan] at h
          obtain rfl : fault' = fault := by simpa using h
          rw [evaluate, hplan]

/-! ## The first failing predicate -/

/-- **The first failing predicate.**  The calls of the expression are asked from left to right, clause by
clause.  The predicates of the calls before this one answer, positively or negatively, and the predicate
of this one fails. -/
inductive FirstFailing (d : Dialect) (expression branch : Text) (call : Call) (reason : String) : Prop
  | mk {before after : List Call} {res : Resolution}
      (split : Expression.calls expression = before ++ call :: after)
      (answered : ∀ earlier ∈ before, ∃ answer, Answers d branch earlier answer)
      (resolved : d.registry.resolve call = .ok res)
      (failed : res.overload.predicate branch res.values = .error reason)

lemma dispatch_eq_error_iff {branch : Text} {rc : ResolvedCall} {failure : EvaluationFailure} :
    dispatch branch rc = .error failure ↔
      ∃ reason, rc.resolution.overload.predicate branch rc.resolution.values = .error reason ∧
        failure = .predicate rc.call.name reason := by
  rw [dispatch]
  cases rc.resolution.overload.predicate branch rc.resolution.values <;> simp [eq_comm]

/-- The calls of a plan are those of the expression, in order, each with its resolution. -/
lemma calls_of_plan_eq_ok {d : Dialect} {expression : Option Text} {plan : List (List ResolvedCall)}
    (h : d.plan expression = .ok plan) :
    plan.flatten.map (·.call) = Expression.calls (expression.getD []) ∧
      ∀ rc ∈ plan.flatten, d.registry.resolve rc.call = .ok rc.resolution := by
  obtain ⟨-, hclauses⟩ := plan_eq_ok_iff.mp h
  have hcalls : List.Forall₂ (fun call rc => d.resolveCall call = .ok rc)
      (Expression.calls (expression.getD [])) plan.flatten := by
    rw [Expression.calls, List.flatMap_def]
    exact List.rel_flatten ((List.forall₂_map_left_iff (f := Clause.calls)).mpr hclauses)
  constructor
  · have hsame : List.Forall₂ Eq (plan.flatten.map (·.call)) (Expression.calls (expression.getD [])) :=
      List.forall₂_map_left_iff.mpr (hcalls.flip.imp fun rc call hrc => (resolveCall_eq_ok_iff.mp hrc).1)
    exact List.forall₂_eq_eq_eq ▸ hsame
  · intro rc hrc
    obtain ⟨call, -, hresolved⟩ := Traversal.exists_of_mem_right hcalls hrc
    obtain ⟨rfl, hres⟩ := resolveCall_eq_ok_iff.mp hresolved
    exact hres

/-- **Following a plan fails with the first failing predicate**, however the clauses divide the calls. -/
theorem follow_eq_error_iff {d : Dialect} {expression : Option Text} {plan : List (List ResolvedCall)}
    (h : d.plan expression = .ok plan) {branch : Text} {failure : EvaluationFailure} :
    follow plan branch = .error failure ↔
      ∃ call reason, FirstFailing d (expression.getD []) branch call reason ∧
        failure = .predicate call.name reason := by
  obtain ⟨hcalls, hresolved⟩ := calls_of_plan_eq_ok h
  have hwalk : follow plan branch = .error failure ↔
      plan.flatten.mapM (dispatch branch) = .error failure := by
    rw [← List.flatMap_id', ← Traversal.mapM_mapM_eq_error_iff, follow]
    cases plan.mapM fun calls => calls.mapM (dispatch branch) <;>
      simp [bind, Except.bind, pure, Except.pure]
  have hanswer : ∀ rc ∈ plan.flatten, ∀ answer,
      dispatch branch rc = .ok answer ↔ Answers d branch rc.call answer := by
    intro rc hrc answer
    have hmem : rc.call ∈ Expression.calls (expression.getD []) := hcalls ▸ List.mem_map_of_mem hrc
    exact dispatch_eq_ok_iff hmem (resolveCall_eq_ok_iff.mpr ⟨rfl, hresolved rc hrc⟩)
  rw [hwalk, Traversal.mapM_eq_error_iff]
  constructor
  · rintro ⟨before, rc, after, hsplit, hbefore, hfailed⟩
    obtain ⟨reason, hreason, rfl⟩ := dispatch_eq_error_iff.mp hfailed
    rw [hsplit] at hcalls hresolved hanswer
    have hcalls' : Expression.calls (expression.getD [])
        = before.map (·.call) ++ rc.call :: after.map (·.call) := by
      rw [← hcalls, List.map_append, List.map_cons]
    refine ⟨rc.call, reason, ⟨hcalls', fun earlier hearlier => ?_, hresolved rc (by simp), hreason⟩, rfl⟩
    obtain ⟨rc', hrc', rfl⟩ := List.mem_map.mp hearlier
    obtain ⟨answer, hok⟩ := hbefore rc' hrc'
    exact ⟨answer, (hanswer rc' (List.mem_append_left _ hrc') answer).mp hok⟩
  · rintro ⟨call, reason, ⟨hsplit, hanswered, hres, hreason⟩, rfl⟩
    rw [← hcalls, List.map_eq_append_iff] at hsplit
    obtain ⟨before, rest, hflat, rfl, hrest⟩ := hsplit
    obtain ⟨rc, after, rfl, rfl, -⟩ := List.map_eq_cons_iff.mp hrest
    rw [hflat] at hresolved hanswer
    refine ⟨before, rc, after, hflat, fun rc' hrc' => ?_, ?_⟩
    · obtain ⟨answer, ha⟩ := hanswered rc'.call (List.mem_map_of_mem hrc')
      exact ⟨answer, (hanswer rc' (List.mem_append_left _ hrc') answer).mpr ha⟩
    · obtain rfl := Except.ok.inj (hres.symm.trans (hresolved rc (by simp)))
      exact dispatch_eq_error_iff.mpr ⟨reason, hreason, rfl⟩

/-- Following a plan fails as soon as the predicate of one of its calls does. -/
lemma exists_follow_eq_error_iff {d : Dialect} {expression : Option Text}
    {plan : List (List ResolvedCall)} (h : d.plan expression = .ok plan) {branch : Text} :
    (∃ failure, follow plan branch = .error failure) ↔
      ∃ call ∈ Expression.calls (expression.getD []), ∃ res reason,
        d.registry.resolve call = .ok res ∧
          res.overload.predicate branch res.values = .error reason := by
  constructor
  · rintro ⟨failure, hfailure⟩
    obtain ⟨call, reason, ⟨hsplit, -, hres, hreason⟩, -⟩ := (follow_eq_error_iff h).mp hfailure
    exact ⟨call, by simp [hsplit], _, reason, hres, hreason⟩
  · rintro ⟨call, hcall, res, reason, hres, hreason⟩
    obtain ⟨hcalls, hresolved⟩ := calls_of_plan_eq_ok h
    cases hfollow : follow plan branch with
    | error failure => exact ⟨failure, rfl⟩
    | ok outcome =>
        -- an outcome has an answer for every call, also for the one whose predicate fails
        obtain ⟨answers, hdispatched, -⟩ := follow_eq_ok_iff.mp hfollow
        rw [← hcalls] at hcall
        obtain ⟨rc, hrc, rfl⟩ := List.mem_map.mp hcall
        obtain rfl := Except.ok.inj (hres.symm.trans (hresolved rc hrc))
        obtain ⟨answer, -, hanswer⟩ := Traversal.exists_of_mem_left (List.rel_flatten hdispatched) hrc
        rw [dispatch_eq_error_iff.mpr ⟨reason, hreason, rfl⟩] at hanswer
        exact absurd hanswer (by simp)

/-! ## Evaluations -/

/-- **What an evaluation makes of failing predicates.**  It fails exactly when the expression has no fault
and the predicate of some call fails on the branch name and the values of the call.  It then fails with
the first failing predicate, and the message names the function and gives the reason.  Other predicates
change nothing about the check of the expression, nor about the outcome of one with a fault. -/
structure SurfacesFailures (d : Dialect) (expression branch : Option Text) : Prop where
  fails_iff : (∃ failure, d.evaluate expression branch = .error failure) ↔
    d.fault? expression = .ok none ∧ ∃ call ∈ Expression.calls (expression.getD []), ∃ res reason,
      d.registry.resolve call = .ok res ∧
        res.overload.predicate (branch.getD []) res.values = .error reason
  first : ∀ failure, d.evaluate expression branch = .error failure ↔
    d.fault? expression = .ok none ∧ ∃ call reason,
      FirstFailing d (expression.getD []) (branch.getD []) call reason ∧
        failure = .predicate call.name reason
  message : ∀ failure, d.evaluate expression branch = .error failure → ∃ call reason,
    FirstFailing d (expression.getD []) (branch.getD []) call reason ∧
      failure.message = "Error calling " ++ String.ofList call.name ++ ": " ++ reason
  check : ∀ p, (d.withPredicates p).fault? expression = d.fault? expression
  rejected : ∀ fault, d.fault? expression = .ok (some fault) → ∀ p,
    (d.withPredicates p).evaluate expression branch = .ok (.rejected fault)

/-- An expression without a fault is evaluated by following its plan, and one with a fault, whose numbers
can all be read, does not fail. -/
lemma evaluate_eq_error_iff {d : Dialect} {expression branch : Option Text}
    (hshort : ∀ call ∈ Expression.calls (expression.getD []), Readable call.arguments)
    {failure : EvaluationFailure} :
    d.evaluate expression branch = .error failure ↔
      ∃ plan, d.plan expression = .ok plan ∧ follow plan (branch.getD []) = .error failure := by
  rw [evaluate]
  cases hplan : d.plan expression with
  | ok plan => simp
  | error refusal =>
      cases refusal with
      | fault fault => simp
      | overlong => exact absurd hplan (plan_ne_overlong hshort)

/-- **A failing predicate is surfaced, and nothing else is.**  For every registry, every list of checks,
every expression whose numbers can all be read, and every branch name. -/
theorem surfacesFailures (d : Dialect) (expression branch : Option Text)
    (hshort : ∀ call ∈ Expression.calls (expression.getD []), Readable call.arguments) :
    d.SurfacesFailures expression branch := by
  have hfirst : ∀ failure, d.evaluate expression branch = .error failure ↔
      d.fault? expression = .ok none ∧ ∃ call reason,
        FirstFailing d (expression.getD []) (branch.getD []) call reason ∧
          failure = .predicate call.name reason := by
    intro failure
    rw [evaluate_eq_error_iff hshort, fault?_eq_ok_none_iff]
    constructor
    · rintro ⟨plan, hplan, hfailure⟩
      exact ⟨⟨plan, hplan⟩, (follow_eq_error_iff hplan).mp hfailure⟩
    · rintro ⟨⟨plan, hplan⟩, hfailing⟩
      exact ⟨plan, hplan, (follow_eq_error_iff hplan).mpr hfailing⟩
  refine ⟨?fails, hfirst, ?message, fault?_withPredicates d expression, ?rejected⟩
  case fails =>
    simp only [evaluate_eq_error_iff hshort, fault?_eq_ok_none_iff]
    constructor
    · rintro ⟨failure, plan, hplan, hfailure⟩
      exact ⟨⟨plan, hplan⟩, (exists_follow_eq_error_iff hplan).mp ⟨failure, hfailure⟩⟩
    · rintro ⟨⟨plan, hplan⟩, hfailing⟩
      obtain ⟨failure, hfailure⟩ := (exists_follow_eq_error_iff hplan).mpr hfailing
      exact ⟨failure, plan, hplan, hfailure⟩
  case message =>
    intro failure hfailure
    obtain ⟨-, call, reason, hfailing, rfl⟩ := (hfirst failure).mp hfailure
    exact ⟨call, reason, hfailing, rfl⟩
  case rejected =>
    intro fault hfault p
    exact evaluate_of_fault?_eq_some ((fault?_withPredicates d expression p).trans hfault) branch

/-- A function without parameters whose predicate gives the same answer for every name. -/
def constantly (name : String) (answer : Except String Bool) : Overload where
  name := name.toList
  parameters := []
  predicate := fun _ _ => answer

/-- Two functions that answer and two that fail. -/
def faultyDialect : Dialect where
  registry := ⟨Grouping.ofList (·.name)
    [constantly "yes" (.ok true), constantly "no" (.ok false), constantly "broken" (.error "boom"),
      constantly "late" (.error "too late")]⟩

/-- The first clause of this expression is positive already, and the call before the failing one negative;
a further failing call comes after it. -/
theorem surfacesFailures_after_verdict :
    (∀ call ∈ Expression.calls "yes() || no() && broken() || late()".toList,
      Readable call.arguments) ∧
    faultyDialect.evaluate (some "yes() || no() && broken() || late()".toList) (some "main".toList)
      = .error (.predicate "broken".toList "boom") := by
  have hcalls : Expression.calls "yes() || no() && broken() || late()".toList
      = [Call.parse "yes()".toList, Call.parse "no()".toList] ++
        Call.parse "broken()".toList :: [Call.parse "late()".toList] := by decide
  have hshort : ∀ call ∈ Expression.calls "yes() || no() && broken() || late()".toList,
      Readable call.arguments := by
    have hnone : ∀ call ∈ Expression.calls "yes() || no() && broken() || late()".toList,
        call.arguments = [] := by decide
    intro call hcall digits hdigits
    rw [hnone call hcall] at hdigits
    exact absurd hdigits List.not_mem_nil
  refine ⟨hshort, ?_⟩
  refine ((surfacesFailures faultyDialect (some _) (some _) hshort).first _).mpr
    ⟨by decide +kernel, Call.parse "broken()".toList, "boom", ?_, rfl⟩
  refine ⟨hcalls, fun earlier hearlier => ?_, rfl, rfl⟩
  simp only [List.mem_cons, List.not_mem_nil, or_false] at hearlier
  rcases hearlier with rfl | rfl
  · exact ⟨⟨⟨"yes".toList, []⟩, true, "yes()".toList⟩, _, rfl, rfl, rfl, rfl, rfl⟩
  · exact ⟨⟨⟨"no".toList, []⟩, false, "no()".toList⟩, _, rfl, rfl, rfl, rfl, rfl⟩

end Dialect

end BranchPolicy
