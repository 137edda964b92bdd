import BranchPolicy.Resolution
import BranchPolicy.Proofs.Expression.Argument
import Mathlib.Data.List.Forall2
import Mathlib.Tactic.Lemma

/-!
# What resolving a call returns

`Registry.resolve` goes through four nested decisions.  This file says what it means for it to
succeed, so that later proofs never open it.

* `Fits` — arguments fit parameters with given values.
* `fit_eq_values_iff` — the reader of arguments agrees with `Fits`.
* `Registry.resolve_eq` — the four decisions as conditions.
* **`Resolves`**, `resolves_of_resolve` — a resolved call has the form of a call, its overload is
  registered under its name, and the values are those of its arguments, one for each parameter.
* `resolve_ne_overlong` — no call without an overlong number runs into the limit on digits.
* `exists_resolve_eq_ok` — a call whose arguments fit some overload resolves.
* `resolve_of_overloads_eq_singleton` — a call of a function with one overload of one parameter resolves
  as its argument is read.
-/

namespace BranchPolicy

/-! ## Fitting -/

/-- Arguments fit parameters with the given values: kind by kind, and each argument denotes its
value. -/
inductive Fits : List Argument → List Parameter → List Value → Prop
  | nil : Fits [] [] []
  | cons {a : Argument} {p : Parameter} {v : Value} {as : List Argument} {ps : List Parameter}
      {vs : List Value} (hkind : a.kind = p.kind) (hvalue : a.value = .ok (some v))
      (hrest : Fits as ps vs) : Fits (a :: as) (p :: ps) (v :: vs)

lemma Fits.map_value {as : List Argument} {ps : List Parameter} {vs : List Value}
    (h : Fits as ps vs) : as.map Argument.value = vs.map fun v => .ok (some v) := by
  induction h with
  | nil => rfl
  | cons hkind hvalue hrest ih => rw [List.map_cons, List.map_cons, hvalue, ih]

lemma Fits.map_kind {as : List Argument} {ps : List Parameter} {vs : List Value}
    (h : Fits as ps vs) : as.map Argument.kind = ps.map Parameter.kind := by
  induction h with
  | nil => rfl
  | cons hkind hvalue hrest ih => rw [List.map_cons, List.map_cons, hkind, ih]

lemma Fits.map_kind_values {as : List Argument} {ps : List Parameter} {vs : List Value}
    (h : Fits as ps vs) : vs.map Value.kind = ps.map Parameter.kind := by
  induction h with
  | nil => rfl
  | cons hkind hvalue hrest ih =>
      rw [List.map_cons, List.map_cons, kind_eq_of_value hvalue, hkind, ih]

/-- Arguments that have values fit parameters of their kinds. -/
lemma exists_fits {as : List Argument} {ps : List Parameter}
    (hkinds : as.map Argument.kind = ps.map Parameter.kind)
    (hvalues : ∀ a ∈ as, ∃ v, a.value = .ok (some v)) : ∃ vs, Fits as ps vs := by
  induction as generalizing ps with
  | nil =>
      obtain rfl := List.map_eq_nil_iff.mp hkinds.symm
      exact ⟨[], Fits.nil⟩
  | cons a as ih =>
      obtain ⟨p, ps, rfl, hkind, hrest⟩ := List.map_eq_cons_iff.mp hkinds.symm
      obtain ⟨v, hv⟩ := hvalues a List.mem_cons_self
      obtain ⟨vs, hvs⟩ := ih hrest.symm fun b hb => hvalues b (List.mem_cons_of_mem _ hb)
      exact ⟨v :: vs, Fits.cons hkind.symm hv hvs⟩

lemma map_push_eq_values_iff {x : Except OverlongNumber Fit} {v : Value} {vs : List Value} :
    x.map (·.push v) = .ok (.values vs) ↔ ∃ us, x = .ok (.values us) ∧ vs = v :: us := by
  rcases x with e | (us | position)
  · simp [Except.map]
  · simp [Except.map, Fit.push, eq_comm]
  · simp [Except.map, Fit.push]

/-- **The reader of arguments agrees with `Fits`**, for as many arguments as parameters. -/
theorem fit_eq_values_iff {position : Nat} {as : List Argument} {ps : List Parameter}
    {vs : List Value} (hlength : as.length = ps.length) :
    fit position as ps = .ok (.values vs) ↔ Fits as ps vs := by
  induction as generalizing position ps vs with
  | nil =>
      obtain rfl := List.length_eq_zero_iff.mp hlength.symm
      simp only [fit, Except.ok.injEq, Fit.values.injEq]
      constructor
      · rintro rfl
        exact Fits.nil
      · rintro ⟨⟩
        rfl
  | cons a as ih =>
      obtain ⟨p, ps, rfl⟩ := List.exists_cons_of_length_eq_add_one hlength.symm
      have hlength' : as.length = ps.length := by simpa using hlength
      rw [fit]
      split
      · next hkind =>
          cases hvalue : a.value with
          | error e =>
              simp only [reduceCtorEq, false_iff]
              rintro ⟨⟩
              simp_all
          | ok value =>
              cases value with
              | none =>
                  simp only [Except.ok.injEq, reduceCtorEq, false_iff]
                  rintro ⟨⟩
                  simp_all
              | some v =>
                  simp only [map_push_eq_values_iff, ih hlength']
                  constructor
                  · rintro ⟨us, hus, rfl⟩
                    exact Fits.cons hkind hvalue hus
                  · rintro (_ | ⟨-, hvalue', hrest⟩)
                    rw [hvalue] at hvalue'
                    cases hvalue'
                    exact ⟨_, hrest, rfl⟩
      · next hkind =>
          simp only [Except.ok.injEq, reduceCtorEq, false_iff]
          rintro (_ | ⟨hkind', -, -⟩)
          exact hkind hkind'

/-! ## Numbers that can be read -/

/-- No number among the arguments has more digits than are read. -/
def Readable (as : List Argument) : Prop :=
  ∀ digits, Argument.number digits ∈ as → isDigits digits = true → digits.length ≤ mostDigits

/-- Arguments with short texts have no overlong numbers among them. -/
lemma readable_of_length_render {as : List Argument} (h : ∀ a ∈ as, a.render.length ≤ mostDigits) :
    Readable as :=
  fun digits hmem _ => h (.number digits) hmem

lemma exists_overlong_of_not_readable {as : List Argument} (h : ¬ Readable as) :
    ∃ digits, Argument.number digits ∈ as ∧ isDigits digits = true ∧ mostDigits < digits.length := by
  by_contra hnone
  refine h fun digits hmem hdigits => ?_
  by_contra hlong
  exact hnone ⟨digits, hmem, hdigits, Nat.lt_of_not_le hlong⟩

lemma value_ne_error {a : Argument} (ha : Readable [a]) (e : OverlongNumber) :
    a.value ≠ .error e := by
  cases a with
  | string content => simp [Argument.value]
  | number digits =>
      have hread : ∀ e, readNumber digits ≠ .error e := by
        intro e h
        unfold readNumber at h
        split at h
        · exact absurd h (by simp)
        · next hdigits =>
            have hle := ha digits List.mem_cons_self (by simpa using hdigits)
            rw [if_neg (by omega)] at h
            split at h <;> exact absurd h (by simp)
      cases hnumber : readNumber digits with
      | error e' => exact absurd hnumber (hread e')
      | ok n => simp [Argument.value, hnumber, Except.map]

lemma fit_ne_error {position : Nat} {as : List Argument} {ps : List Parameter}
    (has : Readable as) (e : OverlongNumber) : fit position as ps ≠ .error e := by
  fun_induction fit position as ps with
  | case1 position a as p ps hkind e' hvalue =>
      have ha : Readable [a] := by
        intro digits hmem
        rw [List.mem_singleton] at hmem
        exact has digits (hmem ▸ List.mem_cons_self)
      exact absurd hvalue (value_ne_error ha e')
  | case2 position a as p ps hkind hvalue => simp
  | case3 position a as p ps hkind v hvalue ih =>
      have hrest := ih fun digits hmem => has digits (List.mem_cons_of_mem _ hmem)
      intro h
      cases hfit : fit (position + 1) as ps with
      | error e' =>
          rw [hfit] at h hrest
          exact hrest (congrArg Except.error (Except.error.inj h))
      | ok x =>
          rw [hfit] at h
          exact absurd h (by simp [Except.map])
  | case4 position a as p ps hkind => simp
  | case5 => simp

/-! ## Choosing -/

/-- A chosen overload is one of the candidates, and the arguments fit it. -/
lemma chooseOverload_eq_ok {function : Text} {as : List Argument} {closest : Nat}
    {os : List Overload} {res : Resolution}
    (h : chooseOverload function as closest os = .ok res) :
    res.overload ∈ os ∧ fit 1 as res.overload.parameters = .ok (.values res.values) := by
  fun_induction chooseOverload function as closest os with
  | case1 => exact absurd h (by simp)
  | case2 => exact absurd h (by simp)
  | case3 closest o os values hfit =>
      obtain rfl := Except.ok.inj h
      exact ⟨List.mem_cons_self, hfit⟩
  | case4 closest o os position hfit ih =>
      obtain ⟨hmem, hfits⟩ := ih h
      exact ⟨List.mem_cons_of_mem _ hmem, hfits⟩

lemma chooseOverload_ne_overlong {function : Text} {as : List Argument} {closest : Nat}
    {os : List Overload} (has : Readable as) :
    chooseOverload function as closest os ≠ .error .overlong := by
  fun_induction chooseOverload function as closest os with
  | case1 => simp
  | case2 closest o os hfit => exact absurd hfit (fit_ne_error has _)
  | case3 => simp
  | case4 closest o os position hfit ih => exact ih

/-- What keeps every candidate from being chosen is one of the arguments. -/
lemma exists_argumentKind_of_chooseOverload {function : Text} {as : List Argument} {closest : Nat}
    {os : List Overload} {fault : Fault}
    (h : chooseOverload function as closest os = .error (.fault fault)) :
    ∃ position, fault = .call (.argumentKind position function) := by
  fun_induction chooseOverload function as closest os with
  | case1 closest =>
      cases h
      exact ⟨closest, rfl⟩
  | case2 => exact absurd h (by simp)
  | case3 => exact absurd h (by simp)
  | case4 closest o os position hfit ih => exact ih h

/-- Some overload is chosen as soon as the arguments fit one of the candidates. -/
lemma exists_chooseOverload_eq_ok {function : Text} {as : List Argument} {closest : Nat}
    {os : List Overload} {o : Overload} {vs : List Value} (has : Readable as) (ho : o ∈ os)
    (hfit : fit 1 as o.parameters = .ok (.values vs)) :
    ∃ res, chooseOverload function as closest os = .ok res := by
  fun_induction chooseOverload function as closest os with
  | case1 => exact absurd ho List.not_mem_nil
  | case2 closest o' os hfit' => exact absurd hfit' (fit_ne_error has _)
  | case3 closest o' os values hfit' => exact ⟨⟨o', values⟩, rfl⟩
  | case4 closest o' os position hfit' ih =>
      rcases List.mem_cons.mp ho with rfl | ho
      · rw [hfit] at hfit'
        exact absurd hfit' (by simp)
      · exact ih ho

/-! ## Resolving -/

/-- Resolving, with its decisions as conditions. -/
lemma Registry.resolve_eq (r : Registry) (c : Call) :
    r.resolve c =
      if endsInList c.render = false then .error (.fault (.call (.notUsable c.render)))
      else if r.overloads c.name = [] then .error (.fault (.call (.notUsable c.name)))
      else if (r.overloads c.name).filter (·.arity == c.arguments.length) = [] then
        .error (.fault (.call
          (arityFault c.name c.arguments.length (arities (r.overloads c.name)))))
      else chooseOverload c.name c.arguments 0
        ((r.overloads c.name).filter (·.arity == c.arguments.length)) := by
  unfold resolve
  cases endsInList c.render with
  | false => rfl
  | true =>
      cases r.overloads c.name with
      | nil => rfl
      | cons o os =>
          dsimp only
          cases (o :: os).filter (·.arity == c.arguments.length) <;> rfl

/-- A call resolves to an overload with values: the call has the form of one, the overload is
registered under its name, and the arguments fit its parameters with those values. -/
structure Resolves (r : Registry) (c : Call) (res : Resolution) : Prop where
  form : endsInList c.render = true
  registered : res.overload ∈ r.overloads c.name
  fits : Fits c.arguments res.overload.parameters res.values

/-- **A resolved call resolves.** -/
theorem resolves_of_resolve {r : Registry} {c : Call} {res : Resolution}
    (h : r.resolve c = .ok res) : Resolves r c res := by
  rw [Registry.resolve_eq] at h
  split_ifs at h with hform
  obtain ⟨hmem, hfit⟩ := chooseOverload_eq_ok h
  obtain ⟨hregistered, harity⟩ := List.mem_filter.mp hmem
  have hlength : c.arguments.length = res.overload.parameters.length :=
    (beq_iff_eq.mp harity).symm
  exact ⟨by simpa using hform, hregistered, (fit_eq_values_iff hlength).mp hfit⟩

/-- A call without an overlong number does not run into the limit on digits. -/
theorem resolve_ne_overlong {r : Registry} {c : Call} (hc : Readable c.arguments) :
    r.resolve c ≠ .error .overlong := by
  rw [Registry.resolve_eq]
  split_ifs
  · simp
  · simp
  · simp
  · exact chooseOverload_ne_overlong hc

/-- **A call whose arguments fit some overload resolves**, possibly to an earlier one. -/
theorem exists_resolve_eq_ok {r : Registry} {c : Call} {o : Overload} {vs : List Value}
    (hform : endsInList c.render = true) (ho : o ∈ r.overloads c.name)
    (hc : Readable c.arguments) (hfits : Fits c.arguments o.parameters vs) :
    ∃ res, r.resolve c = .ok res := by
  have hlength : c.arguments.length = o.parameters.length := by
    simpa using congrArg List.length hfits.map_kind
  have hmem : o ∈ (r.overloads c.name).filter (·.arity == c.arguments.length) :=
    List.mem_filter.mpr ⟨ho, beq_iff_eq.mpr hlength.symm⟩
  rw [Registry.resolve_eq, if_neg (by simp [hform]), if_neg (List.ne_nil_of_mem ho),
    if_neg (List.ne_nil_of_mem hmem)]
  exact exists_chooseOverload_eq_ok hc hmem ((fit_eq_values_iff hlength).mpr hfits)

/-- The call of a function with one overload of one parameter resolves as its argument is read. -/
lemma resolve_of_overloads_eq_singleton {r : Registry} {c : Call} {o : Overload} {p : Parameter}
    {a : Argument} (hform : endsInList c.render = true) (hoverloads : r.overloads c.name = [o])
    (hparameters : o.parameters = [p]) (harguments : c.arguments = [a]) (hkind : a.kind = p.kind) :
    r.resolve c = match a.value with
      | .error .overlong => .error .overlong
      | .ok none => .error (.fault (.call (.argumentKind 1 c.name)))
      | .ok (some v) => .ok ⟨o, [v]⟩ := by
  have hcandidates : [o].filter (·.arity == [a].length) = [o] := by
    simp [Overload.arity, hparameters]
  rw [Registry.resolve_eq, if_neg (by simp [hform]), hoverloads, harguments, hcandidates,
    if_neg (List.cons_ne_nil o []), if_neg (List.cons_ne_nil o [])]
  simp only [chooseOverload, hparameters, fit, if_pos hkind]
  cases a.value with
  | error e => rfl
  | ok value => cases value <;> rfl

end BranchPolicy
