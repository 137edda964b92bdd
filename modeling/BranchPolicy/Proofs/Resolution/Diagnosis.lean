import BranchPolicy.Proofs.Resolution.Matching

/-!
# What is reported of a call that does not resolve

A call of a registered function can fail to resolve for two reasons.  Its number of arguments may be
that of no overload; the report then tells this number from those that would do.  Or the overloads with
as many parameters reject an argument each; the report then names the largest of the positions at which
they do, which is the first one in the overload that came closest.

* `FitsAt`, `Overload.AcceptsAt` — one argument fits the parameter at its place.
* `exists_first_of_fit_eq_mismatch` — the position at which fitting stops is the first that does not fit.
* `closest_of_chooseOverload_eq_error` — the position that is reported is the largest of these.
* `mem_arities` — which arities are listed.
* `IsClosestMismatch` — a position is the first that an overload rejects, and all others reject one by
  then.
* **`Registry.diagnosis_of_not_resolved`** — what is reported, in both cases.
-/

namespace BranchPolicy

/-! ## One argument -/

/-- The argument at an index fits the parameter there: it is of its kind and has a value. -/
def FitsAt (as : List Argument) (ps : List Parameter) (i : Nat) : Prop :=
  ∃ a p, as[i]? = some a ∧ ps[i]? = some p ∧ a.kind = p.kind ∧ ∃ v, a.value = .ok (some v)

section FitsAt

variable {a : Argument} {p : Parameter} {as : List Argument} {ps : List Parameter}

lemma fitsAt_zero : FitsAt (a :: as) (p :: ps) 0 ↔ a.kind = p.kind ∧ ∃ v, a.value = .ok (some v) := by
  simp [FitsAt]

lemma fitsAt_succ {i : Nat} : FitsAt (a :: as) (p :: ps) (i + 1) ↔ FitsAt as ps i := by
  simp [FitsAt]

end FitsAt

/-- **Fitting stops at the first argument that does not fit**, and counts from where it started. -/
lemma exists_first_of_fit_eq_mismatch {start position : Nat} {as : List Argument}
    {ps : List Parameter} (h : fit start as ps = .ok (.mismatch position)) :
    ∃ i, position = start + i ∧ i < as.length ∧ (∀ j < i, FitsAt as ps j) ∧ ¬ FitsAt as ps i := by
  fun_induction fit start as ps with
  | case1 => exact absurd h (by simp)
  | case2 start a as p ps hkind hvalue =>
      cases h
      refine ⟨0, rfl, Nat.succ_pos _, fun j hj => absurd hj (Nat.not_lt_zero j), ?_⟩
      rw [fitsAt_zero, hvalue]
      rintro ⟨-, v, hv⟩
      exact absurd hv (by simp)
  | case3 start a as p ps hkind v hvalue ih =>
      have hrest : fit (start + 1) as ps = .ok (.mismatch position) := by
        rcases hfit : fit (start + 1) as ps with e | (vs | q)
        all_goals
          rw [hfit] at h
          simp [Except.map, Fit.push] at h
        rw [h]
      obtain ⟨i, rfl, hi, hbefore, hat⟩ := ih hrest
      refine ⟨i + 1, by omega, Nat.succ_lt_succ hi, fun j hj => ?_, fitsAt_succ.not.mpr hat⟩
      cases j with
      | zero => exact fitsAt_zero.mpr ⟨hkind, v, hvalue⟩
      | succ j => exact fitsAt_succ.mpr (hbefore j (Nat.lt_of_succ_lt_succ hj))
  | case4 start a as p ps hkind =>
      cases h
      refine ⟨0, rfl, Nat.succ_pos _, fun j hj => absurd hj (Nat.not_lt_zero j), ?_⟩
      rw [fitsAt_zero]
      exact fun hfits => hkind hfits.1
  | case5 => exact absurd h (by simp)

/-! ## The closest overload -/

/-- **The position that is reported** is at least the closest so far, every candidate stops by then, and
one stops right there unless none came closer. -/
lemma closest_of_chooseOverload_eq_error {function : Text} {as : List Argument}
    {closest : Nat} {os : List Overload} {fault : CallFault}
    (h : chooseOverload function as closest os = .error (.fault (.call fault))) :
    ∃ position, fault = .argumentKind position function ∧ closest ≤ position ∧
      (∀ o ∈ os, ∃ q ≤ position, fit 1 as o.parameters = .ok (.mismatch q)) ∧
      (position = closest ∨ ∃ o ∈ os, fit 1 as o.parameters = .ok (.mismatch position)) := by
  fun_induction chooseOverload function as closest os with
  | case1 closest =>
      cases h
      exact ⟨closest, rfl, Nat.le_refl _, by simp, Or.inl rfl⟩
  | case2 => exact absurd h (by simp)
  | case3 => exact absurd h (by simp)
  | case4 closest o os q hfit ih =>
      obtain ⟨position, rfl, hle, hall, hreached⟩ := ih h
      obtain ⟨hclosest, hq⟩ := max_le_iff.mp hle
      refine ⟨position, rfl, hclosest, List.forall_mem_cons.mpr ⟨⟨q, hq, hfit⟩, hall⟩, ?_⟩
      rcases hreached with hmax | ⟨o', ho', hfit'⟩
      · rcases max_choice closest q with hchoice | hchoice
        · exact Or.inl (hmax.trans hchoice)
        · rw [hmax, hchoice]
          exact Or.inr ⟨o, List.mem_cons_self, hfit⟩
      · exact Or.inr ⟨o', List.mem_cons_of_mem _ ho', hfit'⟩

/-- An overload accepts the argument at a position, the positions being counted from 1. -/
def Overload.AcceptsAt (o : Overload) (as : List Argument) (position : Nat) : Prop :=
  FitsAt as o.parameters (position - 1)

/-- **The position at which the closest overload fails.**  Among the overloads with one parameter for
each argument, all reject an argument at this position or before it, and one accepts every argument
before it and rejects the one there. -/
structure IsClosestMismatch (overloads : List Overload) (as : List Argument) (position : Nat) :
    Prop where
  pos : 1 ≤ position
  le : position ≤ as.length
  rejected : ∀ o ∈ overloads, o.arity = as.length →
    ∃ q, 1 ≤ q ∧ q ≤ position ∧ ¬ o.AcceptsAt as q
  reached : ∃ o ∈ overloads, o.arity = as.length ∧
    (∀ q, 1 ≤ q → q < position → o.AcceptsAt as q) ∧ ¬ o.AcceptsAt as position

/-- Fitting an overload stops at the first position that it rejects. -/
lemma Overload.acceptsAt_of_fit_eq_mismatch {o : Overload} {as : List Argument} {position : Nat}
    (h : fit 1 as o.parameters = .ok (.mismatch position)) :
    1 ≤ position ∧ position ≤ as.length ∧ (∀ q, 1 ≤ q → q < position → o.AcceptsAt as q) ∧
      ¬ o.AcceptsAt as position := by
  obtain ⟨i, rfl, hi, hbefore, hat⟩ := exists_first_of_fit_eq_mismatch h
  refine ⟨Nat.le_add_right 1 i, by omega, fun q hpos hq => hbefore (q - 1) (by omega), ?_⟩
  rw [AcceptsAt, Nat.add_sub_cancel_left]
  exact hat

/-! ## The arities -/

lemma mem_arities {overloads : List Overload} {n : Nat} :
    n ∈ arities overloads ↔ ∃ o ∈ overloads, o.arity = n := by
  rw [arities, mem_increasing, List.mem_map]

lemma forall_lt_arities_iff {overloads : List Overload} {n : Nat} :
    (arities overloads).all (n < ·) = true ↔ ∀ o ∈ overloads, n < o.arity := by
  simp [List.all_eq_true, mem_arities]

/-! ## Messages -/

lemma head?_toList_append {s : String} {c : Char} (hs : s.toList.head? = some c) (t : String) :
    (s ++ t).toList.head? = some c := by
  rw [String.toList_append, List.head?_append, hs]
  rfl

/-- The two reports about the number of arguments begin differently. -/
lemma message_argumentCount_ne (function function' : Text) (actual : Nat) (expected : List Nat) :
    (CallFault.argumentCount function actual expected).message
      ≠ (CallFault.missingArgument function').message := by
  have hcount : (CallFault.argumentCount function actual expected).message.toList.head?
      = some 'I' := by
    unfold CallFault.message
    iterate 6 refine head?_toList_append ?_ _
    rfl
  have hmissing : (CallFault.missingArgument function').message.toList.head? = some 'T' := by
    unfold CallFault.message
    iterate 2 refine head?_toList_append ?_ _
    rfl
  intro h
  rw [h, hmissing] at hcount
  exact absurd hcount (by decide)

/-! ## The report -/

namespace Registry

variable {declarations : List Declaration} {r : Registry} {c : Call}

/-- No overload takes as many arguments as the call has. -/
lemma resolve_of_no_arity (hform : endsInList c.render = true) (hname : r.overloads c.name ≠ [])
    (harity : ∀ o ∈ r.overloads c.name, o.arity ≠ c.arguments.length) :
    r.resolve c = .error (.fault (.call
      (arityFault c.name c.arguments.length (arities (r.overloads c.name))))) := by
  have hnone : (r.overloads c.name).filter (·.arity == c.arguments.length) = [] := by
    rw [List.filter_eq_nil_iff]
    intro o ho heq
    exact harity o ho (beq_iff_eq.mp heq)
  rw [resolve_eq, if_neg (by simp [hform]), if_neg hname, if_pos hnone]

/-- Some overload takes as many arguments as the call has. -/
lemma resolve_of_arity (hform : endsInList c.render = true)
    (harity : ∃ o ∈ r.overloads c.name, o.arity = c.arguments.length) :
    r.resolve c = chooseOverload c.name c.arguments 0
      ((r.overloads c.name).filter (·.arity == c.arguments.length)) := by
  obtain ⟨o, ho, heq⟩ := harity
  have hmem : o ∈ (r.overloads c.name).filter (·.arity == c.arguments.length) :=
    List.mem_filter.mpr ⟨ho, beq_iff_eq.mpr heq⟩
  rw [resolve_eq, if_neg (by simp [hform]), if_neg (List.ne_nil_of_mem ho),
    if_neg (List.ne_nil_of_mem hmem)]

/-- **The position that is reported is that of the closest overload.** -/
lemma exists_isClosestMismatch (hform : endsInList c.render = true)
    (harity : ∃ o ∈ r.overloads c.name, o.arity = c.arguments.length) {fault : CallFault}
    (hfault : r.resolve c = .error (.fault (.call fault))) :
    ∃ position, fault = .argumentKind position c.name ∧
      IsClosestMismatch (r.overloads c.name) c.arguments position := by
  rw [resolve_of_arity hform harity] at hfault
  obtain ⟨position, rfl, -, hall, hreached⟩ := closest_of_chooseOverload_eq_error hfault
  have hmem : ∀ {o : Overload}, o ∈ (r.overloads c.name).filter (·.arity == c.arguments.length) ↔
      o ∈ r.overloads c.name ∧ o.arity = c.arguments.length := by
    intro o
    rw [List.mem_filter, beq_iff_eq]
  -- a candidate stops at a position from 1 on, so the largest of these is no longer the initial 0
  obtain ⟨o, ho, hfit⟩ : ∃ o ∈ (r.overloads c.name).filter (·.arity == c.arguments.length),
      fit 1 c.arguments o.parameters = .ok (.mismatch position) := by
    refine hreached.resolve_left fun hzero => ?_
    obtain ⟨o, ho⟩ := harity
    obtain ⟨q, hq, hfit⟩ := hall o (hmem.mpr ho)
    have hpos := (Overload.acceptsAt_of_fit_eq_mismatch hfit).1
    omega
  obtain ⟨hpos, hle, hbefore, hat⟩ := Overload.acceptsAt_of_fit_eq_mismatch hfit
  refine ⟨position, rfl, hpos, hle, fun o' ho' heq => ?_, o, (hmem.mp ho).1, (hmem.mp ho).2,
    hbefore, hat⟩
  obtain ⟨q, hq, hfit'⟩ := hall o' (hmem.mpr ⟨ho', heq⟩)
  obtain ⟨hqpos, -, -, hqat⟩ := Overload.acceptsAt_of_fit_eq_mismatch hfit'
  exact ⟨q, hqpos, hq, hqat⟩

/-- **What is reported of a call that does not resolve.**  Take a registry that was built and a call of
one of its functions whose text has a `(` and ends with `)` and in which no number has more digits than
are read.  If the call does not resolve, it has a fault.

* When no overload has as many parameters as the call has arguments, the report is that an argument is
  missing exactly when every overload has more, and otherwise it names the number of arguments and the
  numbers of parameters, each once and in increasing order.
* When some overload has as many, the report names the position of the closest mismatch. -/
theorem diagnosis_of_not_resolved (hbuild : build declarations = .ok r) (hname : c.name ∈ r.names)
    (hform : '(' ∈ c.render ∧ [')'] <:+ c.render) (hread : Readable c.arguments)
    (hfail : ∀ res, r.resolve c ≠ .ok res) :
    ∃ fault : CallFault, r.resolve c = .error (.fault (.call fault)) ∧
      ((∀ o ∈ r.overloads c.name, o.arity ≠ c.arguments.length) →
        (fault.message = "The expression function '" ++ String.ofList c.name ++
            "' is missing an argument." ↔
          ∀ o ∈ r.overloads c.name, c.arguments.length < o.arity) ∧
        ((∃ o ∈ r.overloads c.name, o.arity ≤ c.arguments.length) →
          ∃ expected : List Nat, expected.Pairwise (· < ·) ∧
            (∀ n, n ∈ expected ↔ ∃ o ∈ r.overloads c.name, o.arity = n) ∧
            fault.message = "Incorrect number of function arguments. The function '" ++
              String.ofList c.name ++ "' has '" ++ toString c.arguments.length ++
              "' argument(s) but is expecting '" ++ " or ".intercalate (expected.map toString) ++
              "'.")) ∧
      ((∃ o ∈ r.overloads c.name, o.arity = c.arguments.length) →
        ∃ position, IsClosestMismatch (r.overloads c.name) c.arguments position ∧
          fault.message = "The value at argument position '" ++ toString position ++
            "' for the expression function '" ++ String.ofList c.name ++
            "' has an incorrect data type.") := by
  have hlist : endsInList c.render = true := endsInList_iff.mpr hform
  obtain ⟨fault, hfault⟩ := exists_fault_of_resolve_ne_ok hread hfail
  refine ⟨fault, hfault, fun harity => ?_, fun harity => ?_⟩
  · have hnone := resolve_of_no_arity hlist (overloads_ne_nil_of_mem_names hbuild hname) harity
    obtain rfl : arityFault c.name c.arguments.length (arities (r.overloads c.name)) = fault := by
      rw [hnone] at hfault
      simpa using hfault
    rw [← forall_lt_arities_iff, arityFault]
    by_cases hless : (arities (r.overloads c.name)).all (c.arguments.length < ·) = true
    · rw [if_pos hless]
      refine ⟨iff_of_true rfl hless, ?_⟩
      rintro ⟨o, ho, hle⟩
      exact absurd (forall_lt_arities_iff.mp hless o ho) (Nat.not_lt_of_le hle)
    · rw [if_neg hless]
      refine ⟨iff_of_false (message_argumentCount_ne _ _ _ _) hless, fun _ => ?_⟩
      exact ⟨_, pairwise_increasing _, fun n => mem_arities, rfl⟩
  · obtain ⟨position, rfl, hclosest⟩ := exists_isClosestMismatch hlist harity hfault
    exact ⟨position, hclosest, rfl⟩

/-- A number that is too large keeps a call from both overloads of `isSectionNum`, and from no overload
before that. -/
theorem diagnosis_of_not_resolved_section :
    (∀ res, standard.resolve (Call.parse "isSectionNum(8, 4294967296)".toList) ≠ .ok res) ∧
      ∃ (fault : CallFault) (position : Nat),
        standard.resolve (Call.parse "isSectionNum(8, 4294967296)".toList)
          = .error (.fault (.call fault)) ∧
        IsClosestMismatch (standard.overloads "isSectionNum".toList)
          [.number "8".toList, .number "4294967296".toList] position ∧
        fault.message = "The value at argument position '" ++ toString position ++
          "' for the expression function '" ++ String.ofList "isSectionNum".toList ++
          "' has an incorrect data type." := by
  have hread : Readable (Call.parse "isSectionNum(8, 4294967296)".toList).arguments :=
    readable_of_length_render (by decide)
  have hfail : ∀ res,
      standard.resolve (Call.parse "isSectionNum(8, 4294967296)".toList) ≠ .ok res := by
    have hnone : (standard.resolve (Call.parse "isSectionNum(8, 4294967296)".toList)).toBool
        = false := by decide
    intro res hres
    rw [hres] at hnone
    exact Bool.noConfusion hnone
  obtain ⟨fault, hfault, -, hkind⟩ :=
    diagnosis_of_not_resolved build_standard (by decide) (by decide) hread hfail
  obtain ⟨position, hclosest, hmessage⟩ := hkind (by decide)
  exact ⟨hfail, fault, position, hfault, hclosest, hmessage⟩

end Registry

end BranchPolicy
