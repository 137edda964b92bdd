import BranchPolicy.Proofs.Evaluation.Reference

/-!
# Two rules joined by `||`

Writing `||` with a space on either side between two rules makes one rule of them.  The first must leave
no quote open, or the connective would be part of a string.  Nothing else is asked of either: they may be
blank, begin or end with a connective or a stray mark, or the second may leave a quote open.

* `groups_glue_or` — a chain continued after `||` has the groups of both parts.
* `sourceGroups_or`, `clauses_or` — the clauses of the joined rule are those of the one and then those of
  the other.
* `plan_or`, `follow_append` — so its plan is made of two plans, and following it is following both.
* `Disjoins` — what the joined rule does on every branch name, told from what the two do.
* **`disjoins_or`** — without checks of the shape, this is what it does.
-/

namespace BranchPolicy

open Text (isBlank quoteOver trim)

/-! ## Chains -/

namespace Chain

/-- A chain continued by a piece, `||` and more has the groups of what comes before and after. -/
lemma groups_glue_or (K : Chain Text) (p : Text) (L : Chain Text) :
    (K.glue (.next p .or L)).groups = (K.glue (.last p)).groups ++ L.groups := by
  induction K with
  | last q => rfl
  | next q k rest ih =>
      cases k with
      | or =>
          rw [glue, groups, ih]
          rfl
      | and =>
          obtain ⟨g, gs, hg⟩ := List.exists_cons_of_ne_nil (rest.glue (.last p)).groups_ne_nil
          rw [glue, groups, ih, glue, groups, hg]
          rfl

end Chain

/-! ## Clauses -/

namespace Expression

variable {e₁ : Text}

/-- The scan of the joined rule is cut at the connective between the two. -/
lemma scan_or (hclosed : quoteOver none e₁ = none) (e₂ : Text) :
    scan none (e₁ ++ (" || ".toList ++ e₂))
      = (scan none e₁).glue (.next [' '] .or ((scan none e₂).prepend [' '])) := by
  have hspace : isBlank [' '] = true := rfl
  have hjoint : " || ".toList ++ e₂ = [' '] ++ (Connective.or.operator ++ ([' '] ++ e₂)) := rfl
  -- the space keeps the connective away from a mark at the end of the first rule
  have hseam : ∀ c ∈ (" || ".toList ++ e₂).head?, isConnectiveMark c = false := by
    intro c hc
    obtain rfl : ' ' = c := Option.some.inj hc
    rfl
  rw [scan_append (Or.inr hseam), hclosed, hjoint, scan_blank_append hspace, scan_operator,
    scan_blank_append hspace, Chain.prepend, List.append_nil]

/-- **The texts of the calls of the joined rule**, clause by clause. -/
theorem sourceGroups_or (hclosed : quoteOver none e₁ = none) (e₂ : Text) :
    sourceGroups (e₁ ++ (" || ".toList ++ e₂)) = sourceGroups e₁ ++ sourceGroups e₂ := by
  have hspace : isBlank [' '] = true := rfl
  have hfirst : ((scan none e₁).glue (.last [' '])).groups.map (List.map trim)
      = ((scan none e₁).map trim).groups := by
    rw [← Chain.groups_map, map_trim_glue_last hspace]
  have hsecond : ((scan none e₂).prepend [' ']).groups.map (List.map trim)
      = ((scan none e₂).map trim).groups := by
    rw [← Chain.groups_map, map_trim_prepend hspace]
  rw [sourceGroups, scan_or hclosed, Chain.groups_map, Chain.groups_glue_or, List.map_append, hfirst,
    hsecond, List.map_append, List.filter_append]
  rfl

/-- **The clauses of the joined rule** are those of the first rule and then those of the second. -/
theorem clauses_or (hclosed : quoteOver none e₁ = none) (e₂ : Text) :
    clauses (e₁ ++ (" || ".toList ++ e₂)) = clauses e₁ ++ clauses e₂ := by
  rw [clauses_eq_map_sourceGroups, sourceGroups_or hclosed, List.map_append,
    ← clauses_eq_map_sourceGroups, ← clauses_eq_map_sourceGroups]

end Expression

/-! ## Plans -/

namespace Dialect

lemma resolveClauses_append (d : Dialect) (cs cs' : List Clause) :
    d.resolveClauses (cs ++ cs') = do
      let plan ← d.resolveClauses cs
      let plan' ← d.resolveClauses cs'
      return plan ++ plan' :=
  List.mapM_append

/-- Without checks every expression has its clauses resolved. -/
lemma plan_of_no_checks (r : Registry) (e : Text) :
    Dialect.plan ⟨r, []⟩ (some e) = resolveClauses ⟨r, []⟩ (Expression.clauses e) := rfl

/-- **The plan of the joined rule** is the plan of the first and then that of the second, and what stands
in the way of the first goes before what stands in the way of the second. -/
theorem plan_or (r : Registry) {e₁ : Text} (hclosed : quoteOver none e₁ = none) (e₂ : Text) :
    Dialect.plan ⟨r, []⟩ (some (e₁ ++ (" || ".toList ++ e₂))) = do
      let plan₁ ← Dialect.plan ⟨r, []⟩ (some e₁)
      let plan₂ ← Dialect.plan ⟨r, []⟩ (some e₂)
      return plan₁ ++ plan₂ := by
  rw [plan_of_no_checks, Expression.clauses_or hclosed, resolveClauses_append]
  rfl

/-- **Following a plan in two parts**: the verdicts are joined by "or", and the traces follow each
other. -/
theorem follow_append (plan₁ plan₂ : List (List ResolvedCall)) (branch : Text) :
    follow (plan₁ ++ plan₂) branch = do
      let outcome₁ ← follow plan₁ branch
      let outcome₂ ← follow plan₂ branch
      return .decided (outcome₁.verdict || outcome₂.verdict) (outcome₁.trace ++ outcome₂.trace) := by
  simp only [follow, List.mapM_append]
  cases plan₁.mapM fun calls => calls.mapM (dispatch branch) with
  | error failure => rfl
  | ok answers₁ =>
      cases plan₂.mapM fun calls => calls.mapM (dispatch branch) with
      | error failure => rfl
      | ok answers₂ =>
          simp [bind, Except.bind, pure, Except.pure, Evaluation.verdict, Evaluation.trace]

/-! ## Evaluations -/

/-- **What a rule does that is the disjunction of two.**  It has no fault exactly when neither has one; a
fault of the first goes before a fault of the second.  With a fault it is rejected.  Without one it has
the outcomes that the two have together: the verdict is positive when one of theirs is, and the trace is
that of the first and then that of the second. -/
structure Disjoins (d : Dialect) (e₁ e₂ rule : Text) : Prop where
  accepted_iff : d.fault? (some rule) = .ok none ↔
    d.fault? (some e₁) = .ok none ∧ d.fault? (some e₂) = .ok none
  fault_first : d.fault? (some e₁) ≠ .ok none → d.fault? (some rule) = d.fault? (some e₁)
  fault_second : d.fault? (some e₁) = .ok none → d.fault? (some rule) = d.fault? (some e₂)
  rejected : ∀ fault branch, d.fault? (some rule) = .ok (some fault) →
    d.evaluate (some rule) branch = .ok (.rejected fault)
  decided : ∀ branch outcome, d.fault? (some rule) = .ok none →
    (d.evaluate (some rule) branch = .ok outcome ↔
      ∃ outcome₁ outcome₂, d.evaluate (some e₁) branch = .ok outcome₁ ∧
        d.evaluate (some e₂) branch = .ok outcome₂ ∧
        outcome = .decided (outcome₁.verdict || outcome₂.verdict) (outcome₁.trace ++ outcome₂.trace))

/-- An expression has no fault exactly when it has a plan. -/
lemma fault?_eq_ok_none_iff {d : Dialect} {e : Option Text} :
    d.fault? e = .ok none ↔ ∃ plan, d.plan e = .ok plan := by
  constructor
  · intro h
    obtain ⟨plan, hplan, -⟩ := exists_plan_of_fault?_eq_none h
    exact ⟨plan, hplan⟩
  · rintro ⟨plan, hplan⟩
    exact fault?_eq_of_plan_eq_ok hplan

/-- Expressions that are planned alike have the same fault. -/
lemma fault?_congr {d : Dialect} {e e' : Option Text} (h : d.plan e = d.plan e') :
    d.fault? e = d.fault? e' := by
  rw [fault?, fault?, h]

/-- A rule that is planned by planning two rules one after the other is their disjunction. -/
lemma disjoins_of_plan_eq {d : Dialect} {e₁ e₂ rule : Text}
    (hplan : d.plan (some rule) = do
      let plan₁ ← d.plan (some e₁)
      let plan₂ ← d.plan (some e₂)
      return plan₁ ++ plan₂) : d.Disjoins e₁ e₂ rule := by
  have hfirst : d.fault? (some e₁) ≠ .ok none → d.fault? (some rule) = d.fault? (some e₁) := by
    intro h
    refine fault?_congr ?_
    cases h₁ : d.plan (some e₁) with
    | error refusal =>
        rw [hplan, h₁]
        rfl
    | ok plan₁ => exact absurd (fault?_eq_of_plan_eq_ok h₁) h
  have hsecond : d.fault? (some e₁) = .ok none → d.fault? (some rule) = d.fault? (some e₂) := by
    intro h
    obtain ⟨plan₁, h₁⟩ := fault?_eq_ok_none_iff.mp h
    cases h₂ : d.plan (some e₂) with
    | error refusal =>
        refine fault?_congr ?_
        rw [hplan, h₁, h₂]
        rfl
    | ok plan₂ =>
        have hrule : d.plan (some rule) = .ok (plan₁ ++ plan₂) := by
          rw [hplan, h₁, h₂]
          rfl
        rw [fault?_eq_of_plan_eq_ok hrule, fault?_eq_of_plan_eq_ok h₂]
  have haccepted : d.fault? (some rule) = .ok none ↔
      d.fault? (some e₁) = .ok none ∧ d.fault? (some e₂) = .ok none := by
    by_cases h : d.fault? (some e₁) = .ok none
    · rw [hsecond h]
      simp [h]
    · rw [hfirst h]
      simp [h]
  refine ⟨haccepted, hfirst, hsecond, ?_, ?_⟩
  · intro fault branch h
    cases hrule : d.plan (some rule) with
    | ok plan =>
        rw [fault?_eq_of_plan_eq_ok hrule] at h
        exact absurd h (by simp)
    | error refusal =>
        cases refusal with
        | overlong =>
            rw [fault?, hrule] at h
            exact absurd h (by simp)
        | fault fault' =>
            rw [fault?_eq_of_plan_eq_fault hrule] at h
            obtain rfl : fault' = fault := by simpa using h
            rw [evaluate, hrule]
  · intro branch outcome h
    obtain ⟨h₁, h₂⟩ := haccepted.mp h
    obtain ⟨plan₁, hplan₁, hfollow₁⟩ := exists_plan_of_fault?_eq_none h₁
    obtain ⟨plan₂, hplan₂, hfollow₂⟩ := exists_plan_of_fault?_eq_none h₂
    have hevaluate : d.evaluate (some rule) branch = follow (plan₁ ++ plan₂) (branch.getD []) := by
      rw [evaluate, hplan, hplan₁, hplan₂]
      rfl
    rw [hevaluate, follow_append, hfollow₁, hfollow₂]
    cases follow plan₁ (branch.getD []) with
    | error failure => simp [bind, Except.bind]
    | ok outcome₁ =>
        cases follow plan₂ (branch.getD []) with
        | error failure => simp [bind, Except.bind]
        | ok outcome₂ => simp [bind, Except.bind, pure, Except.pure, eq_comm]

/-- **Joining two rules by `||` is their disjunction.**  When the first leaves no quote open, the joined
rule has the clauses of the first and then those of the second.  Without checks of the shape it is
therefore, in every registry and on every branch name, the disjunction of the two. -/
theorem disjoins_or {e₁ : Text} (hclosed : quoteOver none e₁ = none) (e₂ : Text) :
    Expression.clauses (e₁ ++ (" || ".toList ++ e₂))
        = Expression.clauses e₁ ++ Expression.clauses e₂ ∧
      ∀ r : Registry, Disjoins ⟨r, []⟩ e₁ e₂ (e₁ ++ (" || ".toList ++ e₂)) :=
  ⟨Expression.clauses_or hclosed e₂, fun r => disjoins_of_plan_eq (plan_or r hclosed e₂)⟩

/-- The first rule ends with a connective, and the second begins with a stray mark and leaves a quote
open. -/
theorem disjoins_or_dangling :
    quoteOver none "contains('||') &&".toList = none ∧
      Expression.clauses "contains('||') && || | allLowerCase() && endsWith('x || y()".toList
        = Expression.clauses "contains('||') &&".toList
          ++ Expression.clauses "| allLowerCase() && endsWith('x || y()".toList ∧
      ∀ r : Registry, Disjoins ⟨r, []⟩ "contains('||') &&".toList
        "| allLowerCase() && endsWith('x || y()".toList
        "contains('||') && || | allLowerCase() && endsWith('x || y()".toList := by
  have hclosed : quoteOver none "contains('||') &&".toList = none := by decide
  exact ⟨hclosed, disjoins_or hclosed "| allLowerCase() && endsWith('x || y()".toList⟩

end Dialect

end BranchPolicy
