import BranchPolicy.Proofs.Completeness
import BranchPolicy.Proofs.Function.Standard
import BranchPolicy.Proofs.Soundness

/-!
# What is reported and what is an error

Whatever is wrong with an expression of the standard functions is reported as its fault, with one
exception: a number with more digits than are read ends the check and the evaluation in an error.
Nothing else does, as the standard functions answer for all values that resolved calls give them.

* `IsWellFormed` — an expression is well written calls with nothing but blanks and connectives between.
* `exists_answer_of_resolve` — the standard functions answer for the values of every resolved call.
* **`evaluate_reports_unless_overlong`** — the outcome of every expression on every branch name, or else
  the number in it that is too long.
* `evaluate_isCharNum` — the three things that can become of a number in a call.
* **`evaluate_isCharNum_4301_digits`** — a number too long to be read is not reported.
-/

namespace BranchPolicy.Dialect

open Expression (Spread calls clauses)

/-! ## Well-formed expressions -/

/-- **An expression is well formed** when it is its calls with nothing but blanks and connectives
between them, and each call is well written for some resolution. -/
def IsWellFormed (r : Registry) (expression : Text) : Prop :=
  Spread ((calls expression).map (·.source)) expression.trim ∧
    ∀ call ∈ calls expression, ∃ res, WellWritten r call.source res

/-- What has a plan under the standard checks is well formed. -/
lemma isWellFormed_of_plan_eq_ok {r : Registry} (hr : r.IsFiled) {expression : Option Text}
    {plan : List (List ResolvedCall)} (h : ({ registry := r } : Dialect).plan expression = .ok plan) :
    IsWellFormed r (expression.getD []) := by
  obtain ⟨hpassed, -⟩ := plan_eq_ok_iff.mp h
  constructor
  · rw [Expression.map_source_calls]
    exact spread_of_passes (shapeFault?_eq_none_iff.mpr hpassed)
  · intro call hcall
    obtain ⟨res, hres⟩ := exists_resolve_of_plan_eq_ok h call hcall
    rw [Expression.calls_eq_map_parse] at hcall
    obtain ⟨c, hc, rfl⟩ := List.mem_map.mp hcall
    have htext := Expression.isCallText_of_mem hc
    rw [htext.source_parse]
    exact ⟨res, wellWritten_of_resolve hr htext hres⟩

/-! ## Outcomes -/

/-- The standard functions answer for the values of every resolved call. -/
lemma exists_answer_of_resolve (branch : Text) {call : Call} {res : Resolution}
    (h : Registry.standard.resolve call = .ok res) :
    ∃ answer, res.overload.predicate branch res.values = .ok answer := by
  obtain ⟨-, hregistered, hfits⟩ := resolves_of_resolve h
  obtain ⟨hmem, -⟩ := Registry.mem_overloads_standard_iff.mp hregistered
  exact Standard.isTotal_of_mem_overloads hmem branch res.values hfits.map_kind_values

/-- An expression whose numbers can all be read has an outcome, which reports the fault that the check of
the expression reports. -/
lemma exists_evaluate_eq_ok {expression : Option Text}
    (hshort : ∀ call ∈ calls (expression.getD []), Readable call.arguments) (branch : Option Text) :
    ∃ outcome, standard.evaluate expression branch = .ok outcome ∧
      standard.fault? expression = .ok outcome.fault? := by
  cases hplan : standard.plan expression with
  | error refusal =>
      cases refusal with
      | overlong => exact absurd hplan (plan_ne_overlong hshort)
      | fault fault =>
          exact ⟨.rejected fault, by rw [evaluate, hplan], fault?_eq_of_plan_eq_fault hplan⟩
  | ok plan =>
      obtain ⟨outcome, houtcome, hfault⟩ :=
        exists_follow_of_plan_eq_ok hplan fun _ _ => exists_answer_of_resolve (branch.getD [])
      refine ⟨outcome, by rw [evaluate, hplan]; exact houtcome, ?_⟩
      rw [hfault]
      exact fault?_eq_of_plan_eq_ok hplan

/-- Only an overlong number refuses a plan without a fault. -/
lemma exists_overlong_of_plan_eq_overlong {d : Dialect} {expression : Option Text}
    (h : d.plan expression = .error .overlong) :
    ∃ call ∈ calls (expression.getD []), ∃ digits, Argument.number digits ∈ call.arguments ∧
      isDigits digits = true ∧ mostDigits < digits.length := by
  by_contra hnone
  refine plan_ne_overlong (fun call hcall => ?_) h
  by_contra hreadable
  exact hnone ⟨call, hcall, exists_overlong_of_not_readable hreadable⟩

/-- **User errors are reported, unless a number is too long to be read.**  With the standard functions
and checks, evaluating any expression on any branch name ends with an outcome.  Its fault is the one
that checking alone reports, and an expression without a fault is well formed; so whatever is malformed
is reported.  The one exception is an expression with a number of more than `mostDigits` digits: both
the check and the evaluation may then end in the same error. -/
theorem evaluate_reports_unless_overlong (expression branch : Option Text) :
    (∃ outcome, standard.evaluate expression branch = .ok outcome ∧
        standard.fault? expression = .ok outcome.fault? ∧
        (outcome.fault? = none → IsWellFormed Registry.standard (expression.getD []))) ∨
      (standard.evaluate expression branch = .error .overlong ∧
        standard.fault? expression = .error .overlong ∧
        ∃ call ∈ calls (expression.getD []), ∃ digits, Argument.number digits ∈ call.arguments ∧
          isDigits digits = true ∧ mostDigits < digits.length) := by
  -- the check and the evaluation both go by the plan, so that its three outcomes settle them together
  cases hplan : standard.plan expression with
  | ok plan =>
      left
      have hfiled := Registry.isFiled_of_build Registry.build_standard
      obtain ⟨outcome, houtcome, hfault⟩ :=
        exists_follow_of_plan_eq_ok hplan fun _ _ => exists_answer_of_resolve (branch.getD [])
      refine ⟨outcome, ?_, ?_, fun _ => isWellFormed_of_plan_eq_ok hfiled hplan⟩
      · rw [evaluate, hplan]
        exact houtcome
      · rw [hfault]
        exact fault?_eq_of_plan_eq_ok hplan
  | error refusal =>
      cases refusal with
      | fault fault =>
          left
          refine ⟨.rejected fault, ?_, fault?_eq_of_plan_eq_fault hplan, fun h => ?_⟩
          · rw [evaluate, hplan]
          · exact absurd h (by simp [Evaluation.fault?])
      | overlong =>
          right
          refine ⟨?_, ?_, exists_overlong_of_plan_eq_overlong hplan⟩
          · rw [evaluate, hplan]
          · rw [fault?, hplan]

/-! ## A number in a call -/

/-- The text of a call of `isCharNum` with a number. -/
def isCharNumText (digits : Text) : Text :=
  "isCharNum(".toList ++ (digits ++ [')'])

/-- The same call with no blanks around its parts. -/
def isCharNumCall (digits : Text) : SpacedCall where
  before := ⟨[], rfl⟩
  name := "isCharNum".toList
  between := ⟨[], rfl⟩
  arguments := [⟨⟨[], rfl⟩, .number digits, ⟨[], rfl⟩⟩]
  inside := ⟨[], rfl⟩
  after := ⟨[], rfl⟩

section Number

variable {digits : Text}

lemma coreText_isCharNumCall (digits : Text) :
    (isCharNumCall digits).coreText .single = isCharNumText digits := by
  have hlist : (isCharNumCall digits).listText .single = digits := by
    simp [isCharNumCall, SpacedCall.listText, SpacedArgument.print, Argument.textIn]
  rw [SpacedCall.coreText, hlist]
  rfl

lemma print_isCharNumCall (digits : Text) :
    (isCharNumCall digits).print .single = isCharNumText digits := by
  rw [SpacedCall.print, coreText_isCharNumCall]
  simp [isCharNumCall]

lemma isLegible_isCharNumCall (hdigits : isDigits digits = true) :
    ∀ a ∈ (isCharNumCall digits).arguments, a.argument.IsLegible := by
  intro a ha
  obtain rfl := List.mem_singleton.mp ha
  exact hdigits

lemma isPlain_isCharNumCall (hdigits : isDigits digits = true) : (isCharNumCall digits).IsPlain := by
  have htrim : Text.trim "isCharNum".toList = "isCharNum".toList := rfl
  have hfree : "isCharNum".toList.all (!isReserved ·) = true := rfl
  refine ⟨List.cons_ne_nil _ _, htrim, fun c hc => ?_, fun a ha => ?_⟩
  · simpa using List.all_eq_true.mp hfree c hc
  · exact (isLegible_isCharNumCall hdigits a ha).isPlain

/-- The overload of `isCharNum` receives the number, if it can be read and is not too large. -/
lemma plan_isCharNum (hdigits : isDigits digits = true) :
    ∃ call o, call.name = "isCharNum".toList ∧
      call.render = isCharNumText digits ∧
      o.signature = ⟨"isCharNum".toList, [.number]⟩ ∧
      (∀ branch n, o.predicate branch [.number n] = .ok (Branch.isDigitAt branch n)) ∧
      standard.plan (some (isCharNumText digits))
        = match readNumber digits with
          | .ok (some n) => .ok [[⟨call, ⟨o, [.number n]⟩⟩]]
          | .ok none => .error (.fault (.call (.argumentKind 1 "isCharNum".toList)))
          | .error .overlong => .error .overlong := by
  have hc := isPlain_isCharNumCall hdigits
  have ha := isLegible_isCharNumCall hdigits
  have hcall : Expression.IsCallText ((isCharNumCall digits).coreText .single) :=
    SpacedCall.isCallText_coreText hc
  obtain ⟨hname, harguments⟩ := SpacedCall.parse_coreText_of_isLegible .single hc ha
  have hform : endsInList (Call.parse ((isCharNumCall digits).coreText .single)).render = true := by
    rw [hcall.render_parse]
    exact SpacedCall.endsInList_coreText hc
  have hresolve := resolve_of_overloads_eq_singleton (r := Registry.standard) hform
    (by rw [hname]; rfl) rfl harguments rfl
  have hplan := plan_print (r := Registry.standard) .single hc ha
  rw [print_isCharNumCall, hresolve, hname] at hplan
  refine ⟨_, Standard.digitPositions.head (List.cons_ne_nil _ _), hname, ?_, rfl,
    fun branch n => rfl, ?_⟩
  · rw [hcall.render_parse, coreText_isCharNumCall]
  · refine hplan.trans ?_
    simp only [Argument.value]
    cases readNumber digits with
    | error e => rfl
    | ok number => cases number <;> rfl

/-- **What becomes of a number in a call.**  A number that can be read and is not too large is passed
on, one that is too large is reported as a value of the wrong kind, and one that is too long to be read
is an error, whatever its value. -/
theorem evaluate_isCharNum (hdigits : isDigits digits = true) (branch : Option Text) :
    standard.evaluate (some (isCharNumText digits)) branch
      = match readNumber digits with
        | .ok (some n) => .ok (.decided (Branch.isDigitAt (branch.getD []) n)
            [⟨⟨"isCharNum".toList, [.number]⟩, Branch.isDigitAt (branch.getD []) n,
              isCharNumText digits⟩])
        | .ok none => .ok (.rejected (.call (.argumentKind 1 "isCharNum".toList)))
        | .error .overlong => .error .overlong := by
  obtain ⟨call, o, -, hrender, hsignature, hpredicate, hplan⟩ := plan_isCharNum hdigits
  rw [evaluate, hplan]
  cases readNumber digits with
  | error e => rfl
  | ok number =>
      cases number with
      | none => rfl
      | some n =>
          have hdispatch : dispatch (branch.getD []) ⟨call, ⟨o, [.number n]⟩⟩
              = .ok ⟨⟨"isCharNum".toList, [.number]⟩, Branch.isDigitAt (branch.getD []) n,
                isCharNumText digits⟩ := by
            rw [dispatch, hpredicate, hsignature, hrender]
          refine follow_eq_ok_iff.mpr ⟨_, .cons (.cons hdispatch .nil) .nil, ?_⟩
          simp

/-- **A number of 4301 digits is not reported.**  It is too large to be an argument, as is a number of
eleven digits, which is reported; yet checking and evaluating it end in an error. -/
theorem evaluate_isCharNum_4301_digits :
    standard.evaluate (some (isCharNumText (List.replicate 11 '1'))) (some "main".toList)
        = .ok (.rejected (.call (.argumentKind 1 "isCharNum".toList))) ∧
      standard.evaluate (some (isCharNumText (List.replicate 4301 '1'))) (some "main".toList)
        = .error .overlong ∧
      standard.fault? (some (isCharNumText (List.replicate 4301 '1'))) = .error .overlong := by
  have hdigits : ∀ n, 0 < n → isDigits (List.replicate n '1') = true := by
    intro n hn
    simp [isDigits, Nat.pos_iff_ne_zero.mp hn]
  have hlong : readNumber (List.replicate 4301 '1') = .error .overlong :=
    readNumber_eq_overlong (hdigits 4301 (by decide)) (by rw [List.length_replicate]; decide)
  refine ⟨?_, ?_, ?_⟩
  · rw [evaluate_isCharNum (hdigits 11 (by decide))]
    rfl
  · rw [evaluate_isCharNum (hdigits 4301 (by decide)), hlong]
  · obtain ⟨_, _, -, -, -, -, hplan⟩ := plan_isCharNum (hdigits 4301 (by decide))
    rw [fault?, hplan, hlong]

end Number

end BranchPolicy.Dialect
