import BranchPolicy.Proofs.Completeness
import BranchPolicy.Proofs.Expression.Printing
import BranchPolicy.Proofs.Function.Standard
import BranchPolicy.Proofs.Resolution.Unambiguous

/-!
# Calls written with their values

An expression can be a single call.  Written with the literals of some values, strings in single quotes and
numbers in decimal digits, it is answered by the predicate of the function for just these values.

* `Value.literal`, `Value.IsWritable` — the literal of a value, and the values that have one.
* `readNumber_toDigits` — a number is read back from its digits.
* `callText` — a call with the literals of some values.
* `SpacedCall.ofArguments` — the same call with its blanks, one after each comma.
* **`evaluate_callText`** — evaluating the call of a standard function is asking its predicate.
* `Satisfies`, `satisfies_iff` — a branch name satisfies such a call.
-/

namespace BranchPolicy

/-! ## Literals -/

/-- The literal of a value: numbers are written in decimal digits. -/
def Value.literal : Value → Argument
  | .string content => .string content
  | .number n => .number (Nat.toDigits 10 n)

/-- Values whose literal is read back: strings without parentheses, quotes and connective marks, and
numbers that are not too large. -/
def Value.IsWritable : Value → Prop
  | .string content => ∀ c ∈ content, isReserved c = false
  | .number n => n ≤ largestNumber

lemma isDigits_toDigits (n : Nat) : isDigits (Nat.toDigits 10 n) = true := by
  rw [isDigits, List.isEmpty_eq_false_iff.mpr Nat.toDigits_ne_nil, Bool.not_false, Bool.true_and,
    List.all_eq_true]
  exact fun c hc => Nat.isDigit_of_mem_toDigits (by decide) (by decide) hc

lemma digitsValue_toDigits (n : Nat) : digitsValue (Nat.toDigits 10 n) = n := by
  rw [digitsValue, ← Nat.ofDigitChars_eq_foldl]
  exact Nat.ofDigitChars_ten_toDigits

/-- **A number is read back from its digits**, unless it is too large. -/
lemma readNumber_toDigits {n : Nat} (h : n ≤ largestNumber) :
    readNumber (Nat.toDigits 10 n) = .ok (some n) := by
  have hlength : (Nat.toDigits 10 n).length ≤ 10 :=
    (Nat.length_toDigits_le_iff (by decide) (by decide)).mpr (Nat.lt_of_le_of_lt h (by decide))
  refine readNumber_eq_some_iff.mpr ⟨isDigits_toDigits n, Nat.le_trans hlength (by decide), ?_, ?_⟩
  · rwa [digitsValue_toDigits]
  · rw [digitsValue_toDigits]

namespace Value

variable {v : Value}

lemma kind_literal (v : Value) : v.literal.kind = v.kind := by
  cases v <;> rfl

lemma IsWritable.value_literal (h : v.IsWritable) : v.literal.value = .ok (some v) := by
  cases v with
  | string content => rfl
  | number n => exact value_number_eq_some_iff.mpr ⟨n, readNumber_toDigits h, rfl⟩

lemma IsWritable.isLegible_literal (h : v.IsWritable) : v.literal.IsLegible := by
  cases v with
  | string content => exact h
  | number n => exact isDigits_toDigits n

end Value

/-- Literals fit parameters of their kinds. -/
lemma fits_literal {values : List Value} {ps : List Parameter}
    (hkinds : values.map Value.kind = ps.map Parameter.kind)
    (hwritable : ∀ v ∈ values, v.IsWritable) : Fits (values.map Value.literal) ps values := by
  induction values generalizing ps with
  | nil =>
      obtain rfl := List.map_eq_nil_iff.mp hkinds.symm
      exact Fits.nil
  | cons v values ih =>
      obtain ⟨p, ps, rfl, hkind, hrest⟩ := List.map_eq_cons_iff.mp hkinds.symm
      obtain ⟨hv, hvalues⟩ := List.forall_mem_cons.mp hwritable
      exact Fits.cons (v.kind_literal.trans hkind.symm) hv.value_literal (ih hrest.symm hvalues)

/-! ## The text of a call -/

/-- The text of a call of a function with the literals of some values. -/
def callText (function : Text) (values : List Value) : Text :=
  Call.render { name := function, arguments := values.map Value.literal }

/-- Arguments with a space before each but the first. -/
def SpacedArgument.ofArguments : List Argument → List SpacedArgument
  | [] => []
  | a :: as => ⟨.none, a, .none⟩ :: as.map fun b => ⟨.space, b, .none⟩

/-- A call with a space after each comma, and no other blanks. -/
def SpacedCall.ofArguments (function : Text) (arguments : List Argument) : SpacedCall where
  before := .none
  name := function
  between := .none
  arguments := SpacedArgument.ofArguments arguments
  inside := .none
  after := .none

lemma SpacedArgument.map_argument_ofArguments (as : List Argument) :
    (ofArguments as).map (·.argument) = as := by
  cases as with
  | nil => rfl
  | cons a as => simp [ofArguments, Function.comp_def]

lemma SpacedCall.listText_ofArguments (function : Text) (as : List Argument) :
    (ofArguments function as).listText .single = ", ".toList.intercalate (as.map (·.render)) := by
  have hrender : ∀ a : Argument, a.textIn .single = a.render := by
    intro a
    cases a <;> rfl
  cases as with
  | nil => rfl
  | cons a as =>
      have hprint : ∀ b : Argument,
          (⟨.space, b, .none⟩ : SpacedArgument).print .single = ' ' :: b.render := by
        intro b
        simp [SpacedArgument.print, Blank.space, Blank.none, hrender]
      rw [List.map_cons, ← intercalate_space, List.map_map]
      simp only [listText, ofArguments, SpacedArgument.ofArguments, List.map_cons, List.map_map,
        Function.comp_def, hprint]
      simp [SpacedArgument.print, Blank.none, hrender]

lemma SpacedCall.coreText_ofArguments (function : Text) (values : List Value) :
    (ofArguments function (values.map Value.literal)).coreText .single = callText function values := by
  rw [coreText, listText_ofArguments]
  simp [callText, Call.render, ofArguments, Blank.none]

lemma SpacedCall.print_ofArguments (function : Text) (values : List Value) :
    (ofArguments function (values.map Value.literal)).print .single = callText function values := by
  rw [print, coreText_ofArguments]
  simp [ofArguments, Blank.none]

/-! ## Evaluating a call -/

/-- The standard functions have names that can be written in an expression. -/
lemma hasPlainName_of_mem_overloads {o : Overload} (ho : o ∈ Standard.overloads) (as : List Argument) :
    (SpacedCall.ofArguments o.name as).HasPlainName := by
  have hall : ∀ o ∈ Standard.overloads,
      o.name ≠ [] ∧ o.name.trim = o.name ∧ o.name.all (!isReserved ·) = true := by decide
  obtain ⟨hne, htrim, hfree⟩ := hall o ho
  have hfree' : ∀ c ∈ o.name, isReserved c = false := by simpa using hfree
  exact ⟨hne, htrim, hfree'⟩

namespace Dialect

section Written

variable {o : Overload} {values : List Value}

lemma isLegible_ofArguments (function : Text) (hwritable : ∀ v ∈ values, v.IsWritable) :
    ∀ a ∈ (SpacedCall.ofArguments function (values.map Value.literal)).arguments,
      a.argument.IsLegible := by
  intro a ha
  have hmem := List.mem_map_of_mem (f := SpacedArgument.argument) ha
  rw [SpacedCall.ofArguments, SpacedArgument.map_argument_ofArguments] at hmem
  obtain ⟨v, hv, hliteral⟩ := List.mem_map.mp hmem
  rw [← hliteral]
  exact (hwritable v hv).isLegible_literal

/-- The plan of a written call is the overload with the values. -/
lemma plan_callText (ho : o ∈ Standard.overloads)
    (hkinds : values.map Value.kind = o.parameters.map Parameter.kind)
    (hwritable : ∀ v ∈ values, v.IsWritable) :
    ∃ call, call.name = o.name ∧ call.render = callText o.name values ∧
      standard.plan (some (callText o.name values)) = .ok [[⟨call, ⟨o, values⟩⟩]] := by
  have ha := isLegible_ofArguments o.name hwritable
  have hname := hasPlainName_of_mem_overloads ho (values.map Value.literal)
  have hc : (SpacedCall.ofArguments o.name (values.map Value.literal)).IsPlain :=
    ⟨hname.ne, hname.trim, hname.free, fun a hmem => (ha a hmem).isPlain⟩
  have hcall : Expression.IsCallText (SpacedCall.coreText .single _) :=
    SpacedCall.isCallText_coreText hc
  have hform : endsInList (SpacedCall.coreText .single _) = true := SpacedCall.endsInList_coreText hc
  obtain ⟨hparsed, harguments⟩ := SpacedCall.parse_coreText_of_isLegible .single hc ha
  have hplan := plan_print (r := Registry.standard) .single hc ha
  rw [SpacedCall.coreText_ofArguments] at hcall hparsed harguments hform hplan
  rw [SpacedCall.print_ofArguments] at hplan
  rw [SpacedCall.ofArguments, SpacedArgument.map_argument_ofArguments] at harguments
  have hresolves : Resolves Registry.standard (Call.parse (callText o.name values)) ⟨o, values⟩ := by
    refine ⟨by rwa [hcall.render_parse], ?_, ?_⟩
    · rw [hparsed]
      exact Registry.mem_overloads_standard_iff.mpr ⟨ho, rfl⟩
    · rw [harguments]
      exact fits_literal hkinds hwritable
  have hunambiguous := Registry.isUnambiguous_of_build Registry.build_standard
  rw [(Registry.resolve_eq_ok_iff hunambiguous).mpr hresolves] at hplan
  exact ⟨_, hparsed, hcall.render_parse, hplan⟩

/-- **A written call is answered by its predicate.**  For every standard overload, all values of the kinds of
its parameters that can be written, and every branch name. -/
theorem evaluate_callText (ho : o ∈ Standard.overloads)
    (hkinds : values.map Value.kind = o.parameters.map Parameter.kind)
    (hwritable : ∀ v ∈ values, v.IsWritable) (branch : Option Text) :
    ∃ answer, o.predicate (branch.getD []) values = .ok answer ∧
      standard.evaluate (some (callText o.name values)) branch
        = .ok (.decided answer [⟨o.signature, answer, callText o.name values⟩]) := by
  obtain ⟨answer, hanswer⟩ := Standard.isTotal_of_mem_overloads ho (branch.getD []) values hkinds
  obtain ⟨call, -, hrender, hplan⟩ := plan_callText ho hkinds hwritable
  have hdispatch : dispatch (branch.getD []) ⟨call, ⟨o, values⟩⟩
      = .ok ⟨o.signature, answer, callText o.name values⟩ := by
    rw [dispatch, hanswer, hrender]
  refine ⟨answer, hanswer, ?_⟩
  rw [evaluate, hplan]
  refine follow_eq_ok_iff.mpr ⟨_, .cons (.cons hdispatch .nil) .nil, ?_⟩
  simp

example : callText "isSectionNum".toList [.number 0, .string ['-']] = "isSectionNum(0, '-')".toList := by
  decide

end Written

end Dialect

/-- A branch name satisfies the call of a function with some values. -/
def Satisfies (branch : Text) (function : String) (values : List Value) : Prop :=
  approves (some (callText function.toList values)) (some branch) = .ok true

/-- A name satisfies a call exactly when the predicate of the function answers positively. -/
lemma satisfies_iff {branch : Text} {function : String} {values : List Value} {o : Overload} {b : Bool}
    (ho : o ∈ Registry.standard.overloads function.toList)
    (hkinds : values.map Value.kind = o.parameters.map Parameter.kind)
    (hwritable : ∀ v ∈ values, v.IsWritable) (hanswer : o.predicate branch values = .ok b) :
    Satisfies branch function values ↔ b = true := by
  obtain ⟨ho, hname⟩ := Registry.mem_overloads_standard_iff.mp ho
  obtain ⟨answer, hpredicate, houtcome⟩ :=
    Dialect.evaluate_callText ho hkinds hwritable (some branch)
  obtain rfl : b = answer := Except.ok.inj (hanswer.symm.trans hpredicate)
  rw [Satisfies, approves, ← hname, houtcome]
  simp [Except.map, Evaluation.verdict]

end BranchPolicy
