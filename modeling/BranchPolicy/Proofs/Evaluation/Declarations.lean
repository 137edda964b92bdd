import BranchPolicy.Proofs.Evaluation.Reference
import BranchPolicy.Proofs.Resolution.Unambiguous

/-!
# Added and reordered declarations

An evaluation sees its registry through the calls that it resolves.  What is done to the declarations
behind the registry therefore shows in an evaluation only as far as it shows in a resolution.

* `plan_eq_ok_of_resolve_eq_ok` — a plan stays when its calls resolve as before.
* `plan_eq_of_resolve_eq` — registries that resolve alike plan alike.
* **`evaluate_eq_of_sublist`** — declarations that are added change nothing for an expression without
  a fault.
* **`evaluate_eq_of_perm`** — the order of the declarations changes nothing for any expression.
-/

namespace BranchPolicy.Dialect

variable {r r' : Registry} {checks : List ShapeCheck} {expression : Option Text}

/-! ## What an evaluation sees of a registry -/

/-- A plan stays when every call that resolves still resolves to the same. -/
lemma plan_eq_ok_of_resolve_eq_ok
    (hresolve : ∀ call res, r.resolve call = .ok res → r'.resolve call = .ok res)
    {plan : List (List ResolvedCall)} (h : Dialect.plan ⟨r, checks⟩ expression = .ok plan) :
    Dialect.plan ⟨r', checks⟩ expression = .ok plan := by
  obtain ⟨passed, hresolved⟩ := plan_eq_ok_iff.mp h
  refine plan_eq_ok_iff.mpr ⟨passed, hresolved.imp fun clause calls hcalls => ?_⟩
  refine hcalls.imp fun call rc hrc => ?_
  obtain ⟨hcall, hres⟩ := resolveCall_eq_ok_iff.mp hrc
  exact resolveCall_eq_ok_iff.mpr ⟨hcall, hresolve call rc.resolution hres⟩

/-- Registries that resolve every call alike plan every expression alike. -/
lemma plan_eq_of_resolve_eq (hresolve : ∀ call, r'.resolve call = r.resolve call) :
    Dialect.plan ⟨r', checks⟩ expression = Dialect.plan ⟨r, checks⟩ expression := by
  have hcall : resolveCall ⟨r', checks⟩ = resolveCall ⟨r, checks⟩ := by
    funext call
    rw [resolveCall, resolveCall, hresolve]
  simp only [plan, shapeFault?, resolveClauses, hcall]

/-! ## Added declarations -/

/-- **Added functions never change existing rules.**  When some declarations make a registry and so
do more declarations, the further ones standing anywhere among the former, an expression without a
fault keeps having none, each of its calls resolves to the same overload with the same values, and
every branch name gets the same evaluation. -/
theorem evaluate_eq_of_sublist {ds ds' : List Declaration} (hsub : ds.Sublist ds')
    (h : Registry.build ds = .ok r) (h' : Registry.build ds' = .ok r')
    (hvalid : fault? ⟨r, checks⟩ expression = .ok none) :
    fault? ⟨r', checks⟩ expression = .ok none ∧
    (∀ call ∈ Expression.calls (expression.getD []),
      ∃ res, r.resolve call = .ok res ∧ r'.resolve call = .ok res) ∧
    ∀ branch, evaluate ⟨r', checks⟩ expression branch = evaluate ⟨r, checks⟩ expression branch := by
  have hresolve : ∀ call res, r.resolve call = .ok res → r'.resolve call = .ok res := by
    intro call res hres
    obtain ⟨hform, hregistered, hfits⟩ := resolves_of_resolve hres
    refine (Registry.resolve_eq_ok_iff (Registry.isUnambiguous_of_build h')).mpr ?_
    exact ⟨hform, Registry.mem_overloads_of_subset hsub.subset h h' hregistered, hfits⟩
  obtain ⟨plan, hplan, hfollow⟩ := exists_plan_of_fault?_eq_none hvalid
  have hplan' : Dialect.plan ⟨r', checks⟩ expression = .ok plan :=
    plan_eq_ok_of_resolve_eq_ok hresolve hplan
  refine ⟨fault?_eq_of_plan_eq_ok hplan', fun call hcall => ?_, fun branch => ?_⟩
  · obtain ⟨res, hres⟩ := exists_resolve_of_plan_eq_ok hplan call hcall
    exact ⟨res, hres, hresolve call res hres⟩
  · rw [hfollow, evaluate, hplan']

/-- An overload that takes as many arguments as the standard ones of its name, but two strings. -/
def sectionBetween : Overload where
  name := "isSectionNum".toList
  category := .position
  parameters := [Standard.stringParameter "fromChar" "", Standard.stringParameter "upToChar" ""]
  predicate := fun _ _ => .ok true

/-- A further overload in front of the standard ones, for a call of the same name with as many
arguments. -/
theorem evaluate_eq_of_sublist_sectionBetween :
    ∃ r', Registry.build ((sectionBetween :: Standard.overloads).map Overload.declaration) = .ok r' ∧
      fault? ⟨r', ShapeCheck.standard⟩ (some "isSectionNum(8, '-')".toList) = .ok none ∧
      (∀ call ∈ Expression.calls "isSectionNum(8, '-')".toList,
        ∃ res, Registry.standard.resolve call = .ok res ∧ r'.resolve call = .ok res) ∧
      ∀ branch, evaluate ⟨r', ShapeCheck.standard⟩ (some "isSectionNum(8, '-')".toList) branch
        = evaluate standard (some "isSectionNum(8, '-')".toList) branch := by
  have h' : Registry.build ((sectionBetween :: Standard.overloads).map Overload.declaration)
      = .ok ⟨Grouping.ofList (·.name) (sectionBetween :: Standard.overloads)⟩ :=
    Registry.build_declarations (by decide) (by decide)
  refine ⟨_, h', evaluate_eq_of_sublist ?_ Registry.build_standard h' rfl⟩
  exact (List.sublist_cons_self sectionBetween Standard.overloads).map Overload.declaration

/-! ## Reordered declarations -/

/-- **The order of the declarations has no say.**  When some declarations make a registry, so do they
in any other order; every call then resolves to the same overload, or not at all for the same reason,
and every expression has the same fault and the same evaluation on every branch name. -/
theorem evaluate_eq_of_perm {ds ds' : List Declaration} (hperm : ds.Perm ds')
    (h : Registry.build ds = .ok r) :
    ∃ r', Registry.build ds' = .ok r' ∧
      (∀ call, r'.resolve call = r.resolve call) ∧
      ∀ checks expression, fault? ⟨r', checks⟩ expression = fault? ⟨r, checks⟩ expression ∧
        ∀ branch, evaluate ⟨r', checks⟩ expression branch
          = evaluate ⟨r, checks⟩ expression branch := by
  obtain ⟨r', h', hoverloads⟩ := Registry.exists_build_of_perm hperm h
  have hresolve : ∀ call, r'.resolve call = r.resolve call := fun call =>
    (Registry.resolve_eq_of_perm (Registry.isUnambiguous_of_build h) hoverloads call).symm
  refine ⟨r', h', hresolve, fun checks expression => ?_⟩
  have hplan : Dialect.plan ⟨r', checks⟩ expression = Dialect.plan ⟨r, checks⟩ expression :=
    plan_eq_of_resolve_eq hresolve
  exact ⟨by rw [fault?, fault?, hplan], fun branch => by rw [evaluate, evaluate, hplan]⟩

/-- The standard functions, declared in the opposite order. -/
theorem evaluate_eq_of_perm_reverse :
    ∃ r', Registry.build (Standard.overloads.map Overload.declaration).reverse = .ok r' ∧
      (∀ call, r'.resolve call = Registry.standard.resolve call) ∧
      ∀ checks expression, fault? ⟨r', checks⟩ expression
          = fault? ⟨Registry.standard, checks⟩ expression ∧
        ∀ branch, evaluate ⟨r', checks⟩ expression branch
          = evaluate ⟨Registry.standard, checks⟩ expression branch :=
  evaluate_eq_of_perm (List.reverse_perm _).symm Registry.build_standard

end BranchPolicy.Dialect
