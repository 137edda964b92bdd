import BranchPolicy.Proofs.Function.Registry
import BranchPolicy.Proofs.Resolution
import Mathlib.Order.MinMax

/-!
# Resolving in an unambiguous registry

`Registry.resolve` tries the overloads of a function one after the other and takes the first that
fits.  In a registry that was built the order has no say: the arguments of a call fit at most one
overload, and what is reported when they fit none is gathered from all of them.

* `Fits.values_unique`, `Fits.readable` — arguments that fit have one list of values, and no number
  among them is overlong.
* **`Registry.resolve_eq_ok_iff`** — in an unambiguous registry, to resolve is `Resolves`.
* `chooseOverload_swap`, `chooseOverload_eq_of_perm` — the candidates can be tried in any order.
* `increasing_eq_of_perm` — arities are listed in one way only.
* **`Registry.resolve_eq_of_perm`** — registries with the same overloads resolve every call alike.
-/

namespace BranchPolicy

/-! ## What fits -/

lemma Fits.values_unique {as : List Argument} {ps qs : List Parameter} {vs ws : List Value}
    (h : Fits as ps vs) (h' : Fits as qs ws) : vs = ws := by
  have hinjective : Function.Injective fun v : Value => (.ok (some v) : Except OverlongNumber _) :=
    fun v w heq => Option.some.inj (Except.ok.inj heq)
  exact List.map_injective_iff.mpr hinjective (h.map_value.symm.trans h'.map_value)

/-- Arguments that fit can all be read. -/
lemma Fits.readable {as : List Argument} {ps : List Parameter} {vs : List Value}
    (h : Fits as ps vs) : Readable as := by
  induction h with
  | nil => exact fun digits hmem => absurd hmem List.not_mem_nil
  | @cons a p v as ps vs hkind hvalue hrest ih =>
      intro digits hmem hdigits
      rcases List.mem_cons.mp hmem with rfl | hmem
      · by_contra hlong
        have hread : readNumber digits = .error .overlong := by
          rw [readNumber, if_neg (by simp [hdigits]), if_pos (Nat.lt_of_not_le hlong)]
        simp [Argument.value, hread, Except.map] at hvalue
      · exact ih digits hmem hdigits

namespace Registry

/-- **In an unambiguous registry a call resolves to what it stands for**, wherever the overload
stands among the others. -/
theorem resolve_eq_ok_iff {r : Registry} (hr : r.IsUnambiguous) {c : Call} {res : Resolution} :
    r.resolve c = .ok res ↔ Resolves r c res := by
  refine ⟨resolves_of_resolve, fun h => ?_⟩
  obtain ⟨res', hres'⟩ := exists_resolve_eq_ok h.form h.registered h.fits.readable h.fits
  obtain ⟨-, hregistered, hfits⟩ := resolves_of_resolve hres'
  obtain ⟨o, vs⟩ := res
  obtain ⟨o', vs'⟩ := res'
  obtain rfl : o = o' :=
    hr c.name o h.registered o' hregistered (h.fits.map_kind.symm.trans hfits.map_kind)
  obtain rfl : vs = vs' := h.fits.values_unique hfits
  exact hres'

end Registry

/-! ## The order of the candidates -/

/-- A number among the arguments that is overlong keeps them from fitting any candidate. -/
lemma fit_ne_values_of_fit_eq_error {as : List Argument} {ps qs : List Parameter} {vs : List Value}
    {e : OverlongNumber} (hlength : as.length = qs.length) (h : fit 1 as ps = .error e) :
    fit 1 as qs ≠ .ok (.values vs) := by
  intro hvalues
  exact fit_ne_error ((fit_eq_values_iff hlength).mp hvalues).readable e h

/-- Two candidates can be tried in either order: at most one of them settles the matter. -/
lemma chooseOverload_swap {function : Text} {as : List Argument} {o o' : Overload}
    (ho : as.length = o.parameters.length) (ho' : as.length = o'.parameters.length)
    (hdistinct : o.parameters.map Parameter.kind = o'.parameters.map Parameter.kind → o = o')
    (closest : Nat) (os : List Overload) :
    chooseOverload function as closest (o :: o' :: os)
      = chooseOverload function as closest (o' :: o :: os) := by
  simp only [chooseOverload]
  rcases hfit : fit 1 as o.parameters with e | (vs | position) <;>
    rcases hfit' : fit 1 as o'.parameters with e' | (vs' | position')
  case error.ok.values => exact absurd hfit' (fit_ne_values_of_fit_eq_error ho' hfit)
  case ok.values.error => exact absurd hfit (fit_ne_values_of_fit_eq_error ho hfit')
  case ok.values.ok.values =>
    have hfits := (fit_eq_values_iff ho).mp hfit
    have hfits' := (fit_eq_values_iff ho').mp hfit'
    obtain rfl := hdistinct (hfits.map_kind.symm.trans hfits'.map_kind)
    obtain rfl := hfits.values_unique hfits'
    rfl
  case ok.mismatch.ok.mismatch => simp only [max_right_comm]
  all_goals rfl

/-- **Candidates can be tried in any order**, when all have as many parameters as there are
arguments and no two have parameters of the same kinds. -/
theorem chooseOverload_eq_of_perm {function : Text} {as : List Argument} {os os' : List Overload}
    (hperm : os.Perm os') (hlength : ∀ o ∈ os, as.length = o.parameters.length)
    (hdistinct : ∀ o ∈ os, ∀ o' ∈ os,
      o.parameters.map Parameter.kind = o'.parameters.map Parameter.kind → o = o')
    (closest : Nat) :
    chooseOverload function as closest os = chooseOverload function as closest os' := by
  induction hperm generalizing closest with
  | nil => rfl
  | @cons o os os' hperm ih =>
      have ih' := ih (fun o ho => hlength o (List.mem_cons_of_mem _ ho)) fun o ho o' ho' =>
        hdistinct o (List.mem_cons_of_mem _ ho) o' (List.mem_cons_of_mem _ ho')
      simp only [chooseOverload, ih']
  | swap o o' os =>
      have ho : o ∈ o' :: o :: os := List.mem_cons_of_mem _ List.mem_cons_self
      have ho' : o' ∈ o' :: o :: os := List.mem_cons_self
      exact chooseOverload_swap (hlength o' ho') (hlength o ho) (hdistinct o' ho' o ho) closest os
  | trans hperm hperm' ih ih' =>
      rw [ih hlength hdistinct, ih']
      · exact fun o ho => hlength o (hperm.mem_iff.mpr ho)
      · exact fun o ho o' ho' => hdistinct o (hperm.mem_iff.mpr ho) o' (hperm.mem_iff.mpr ho')

/-! ## The order of the arities -/

/-- The distinct members of a list in increasing order do not depend on the order of the list. -/
lemma increasing_eq_of_perm {l l' : List Nat} (hperm : l.Perm l') : increasing l = increasing l' :=
  increasing_eq (pairwise_increasing l') fun _ => mem_increasing.trans hperm.symm.mem_iff

/-! ## The order of the overloads -/

/-- **Registries with the same overloads resolve every call alike**, with the same fault if it does
not resolve, and the same error if a number in it is overlong. -/
theorem Registry.resolve_eq_of_perm {r r' : Registry} (hr : r.IsUnambiguous)
    (hperm : ∀ name, (r.overloads name).Perm (r'.overloads name)) (c : Call) :
    r.resolve c = r'.resolve c := by
  have harities : arities (r.overloads c.name) = arities (r'.overloads c.name) :=
    increasing_eq_of_perm ((hperm c.name).map Overload.arity)
  have hcandidates := (hperm c.name).filter (·.arity == c.arguments.length)
  have hchoose : chooseOverload c.name c.arguments 0
        ((r.overloads c.name).filter (·.arity == c.arguments.length))
      = chooseOverload c.name c.arguments 0
        ((r'.overloads c.name).filter (·.arity == c.arguments.length)) := by
    refine chooseOverload_eq_of_perm hcandidates (fun o ho => ?_) (fun o ho o' ho' => ?_) 0
    · exact (beq_iff_eq.mp (List.mem_filter.mp ho).2).symm
    · exact hr c.name o (List.mem_filter.mp ho).1 o' (List.mem_filter.mp ho').1
  have hnone : r.overloads c.name = [] ↔ r'.overloads c.name = [] := by
    rw [← List.length_eq_zero_iff, (hperm c.name).length_eq, List.length_eq_zero_iff]
  simp only [resolve_eq, harities, hchoose, hnone, ← List.length_eq_zero_iff, hcandidates.length_eq]

end BranchPolicy
