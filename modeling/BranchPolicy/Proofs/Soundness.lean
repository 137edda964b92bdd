import BranchPolicy.Proofs.Evaluation.Reference
import BranchPolicy.Proofs.Expression.Call
import BranchPolicy.Proofs.Function.Registry
import BranchPolicy.Proofs.Shape.Check

/-!
# Soundness of accepting an expression

Reading never fails, so what an accepted expression was written like has to be won back from the
checks and the resolution of its calls.

* `WellWritten` — the text of a call is a registered name with an argument list whose pieces denote the
  values of a resolution.
* `wellWritten_of_resolve` — a call of an expression that resolves is well written.
* **`wellWritten_of_accepted`** — an accepted expression is its calls with nothing but blanks and
  connectives between them, each well written for the overload and the values it is dispatched with.
-/

namespace BranchPolicy

open Expression (Spread IsCallText sourceGroups)
open Text (isBlank unquotedPieces)

/-- **A call is well written for a resolution.**  Its text is a name, an opening parenthesis, an
argument list and a closing parenthesis.  The name holds no opening parenthesis and is, when trimmed,
the one under which the overload is registered.  The list is blank for an overload without parameters,
and otherwise its pieces between commas outside quotes denote the values, one for each parameter. -/
def WellWritten (r : Registry) (source : Text) (res : Resolution) : Prop :=
  ∃ name list, source = name ++ '(' :: (list ++ [')']) ∧ '(' ∉ name ∧
    name.trim ∈ r.names ∧ res.overload ∈ r.overloads name.trim ∧ res.overload.name = name.trim ∧
    (res.overload.parameters = [] → isBlank list = true ∧ res.values = []) ∧
    (res.overload.parameters ≠ [] →
      Written (unquotedPieces [','] list) res.overload.parameters res.values)

/-- **A call of an expression that resolves is well written.** -/
theorem wellWritten_of_resolve {r : Registry} (hr : r.IsFiled) {c : Text} (hc : IsCallText c)
    {res : Resolution} (h : r.resolve (Call.parse c) = .ok res) : WellWritten r c res := by
  obtain ⟨hform, hregistered, hfits⟩ := resolves_of_resolve h
  rw [hc.render_parse] at hform
  obtain ⟨name, list, rfl, hname⟩ := exists_eq_of_endsInList hform
  have hcallName : (Call.parse (name ++ '(' :: (list ++ [')']))).name = name.trim := by
    rw [Call.parse, hc.trim_eq]
    exact nameOf_call hname _
  have hcallArguments : (Call.parse (name ++ '(' :: (list ++ [')']))).arguments
      = (Call.argumentTexts list).map Argument.ofText := by
    rw [Call.parse, hc.trim_eq, argumentList_call hname]
  rw [hcallName] at hregistered
  rw [hcallArguments] at hfits
  obtain ⟨hnone, hsome⟩ := isBlank_or_written hfits
  exact ⟨name, list, rfl, hname, Registry.mem_names_of_mem_overloads hregistered, hregistered,
    (hr _ _ hregistered).1, hnone, hsome⟩

namespace Dialect

lemma map_call_of_forall₂ {d : Dialect} {clauses : List Clause} {plan : List (List ResolvedCall)}
    (h : List.Forall₂ (fun clause calls => List.Forall₂ (fun call rc => d.resolveCall call = .ok rc)
      clause.calls calls) clauses plan) :
    plan.map (·.map (·.call)) = clauses.map (·.calls) := by
  induction h with
  | nil => rfl
  | @cons clause calls clauses plan hcalls hrest ih =>
      have hclause : calls.map (·.call) = clause.calls := by
        generalize clause.calls = cs at hcalls
        induction hcalls with
        | nil => rfl
        | cons hrc hrest' ih' => rw [List.map_cons, ih', (resolveCall_eq_ok_iff.mp hrc).1]
      rw [List.map_cons, List.map_cons, ih, hclause]

/-- **Soundness of accepting.**  In a registry that was built, let the standard checks and the
resolution accept an expression.  Then it has a plan, which every evaluation of the expression follows
and which holds its calls in order.  Each call is well written for the overload and the values that are
dispatched, and the trimmed expression is the texts of the calls with nothing but blanks and connectives
between them: no other character of it is ignored. -/
theorem wellWritten_of_accepted {declarations : List Declaration} {r : Registry}
    (hbuild : Registry.build declarations = .ok r) {expression : Option Text}
    (h : ({ registry := r } : Dialect).fault? expression = .ok none) :
    ∃ plan, ({ registry := r } : Dialect).plan expression = .ok plan ∧
      (∀ branch, ({ registry := r } : Dialect).evaluate expression branch
        = follow plan (branch.getD [])) ∧
      plan.map (·.map (·.call)) = (Expression.clauses (expression.getD [])).map (·.calls) ∧
      (∀ calls ∈ plan, ∀ rc ∈ calls, WellWritten r rc.call.source rc.resolution) ∧
      Spread ((Expression.calls (expression.getD [])).map (·.source)) (expression.getD []).trim := by
  obtain ⟨plan, hplan, hfollow⟩ := exists_plan_of_fault?_eq_none h
  obtain ⟨hpassed, hresolved⟩ := plan_eq_ok_iff.mp hplan
  refine ⟨plan, hplan, hfollow, map_call_of_forall₂ hresolved, ?_, ?_⟩
  · intro calls hcalls rc hrc
    obtain ⟨clause, hclause, hrelated⟩ := Traversal.exists_of_mem_right hresolved hcalls
    obtain ⟨call, hcall, hresolve⟩ := Traversal.exists_of_mem_right hrelated hrc
    obtain ⟨rfl, hres⟩ := resolveCall_eq_ok_iff.mp hresolve
    have hmem : rc.call ∈ Expression.calls (expression.getD []) :=
      List.mem_flatMap.mpr ⟨clause, hclause, hcall⟩
    rw [Expression.calls_eq_map_parse] at hmem
    obtain ⟨c, hc, hparse⟩ := List.mem_map.mp hmem
    have htext := Expression.isCallText_of_mem hc
    rw [← hparse] at hres ⊢
    rw [htext.source_parse]
    exact wellWritten_of_resolve (Registry.isFiled_of_build hbuild) htext hres
  · rw [Expression.map_source_calls]
    exact spread_of_passes (shapeFault?_eq_none_iff.mpr hpassed)

/-- Soundness at an expression with blanks in it, a blank list and arguments of both kinds. -/
theorem wellWritten_of_accepted_section :
    ∃ plan, standard.plan (some " isSectionNum ( 08 ,'-' )\n|| allLowerCase( )".toList) = .ok plan ∧
      (∀ branch, standard.evaluate (some " isSectionNum ( 08 ,'-' )\n|| allLowerCase( )".toList) branch
        = follow plan (branch.getD [])) ∧
      plan.map (·.map (·.call))
        = (Expression.clauses " isSectionNum ( 08 ,'-' )\n|| allLowerCase( )".toList).map (·.calls) ∧
      (∀ calls ∈ plan, ∀ rc ∈ calls,
        WellWritten Registry.standard rc.call.source rc.resolution) ∧
      Spread ((Expression.calls " isSectionNum ( 08 ,'-' )\n|| allLowerCase( )".toList).map (·.source))
        (Text.trim " isSectionNum ( 08 ,'-' )\n|| allLowerCase( )".toList) := by
  have h : standard.fault? (some " isSectionNum ( 08 ,'-' )\n|| allLowerCase( )".toList)
      = .ok none := by decide
  exact wellWritten_of_accepted Registry.build_standard h

end Dialect

end BranchPolicy
