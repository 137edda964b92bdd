import BranchPolicy.Function.Standard
import BranchPolicy.Proofs.Expression.Argument

/-!
# The standard functions always answer

A predicate can fail only on values of other kinds than it is made for.  Every standard overload gives
its predicate the parameters that it is made for.

* `Overload.IsTotal` — the overload answers for every branch name and all values of the kinds of its
  parameters.
* `exists_searching`, `exists_counting`, … — what each predicate answers for values of its own kinds.
* `isTotal_onName`, `isTotal_onValue`, `isTotal_onValues` — overloads with no, one and two parameters.
* `forall_mem_overloads` — what holds of each family of functions holds of all of them.
* **`isTotal_of_mem_overloads`** — every standard overload is total.
* `Registry.mem_overloads_standard_iff` — what the registry of the standard functions holds.
-/

namespace BranchPolicy

/-- **An overload is total** when it answers for every branch name and all values whose kinds are those
of its parameters. -/
def Overload.IsTotal (o : Overload) : Prop :=
  ∀ (branch : Text) (values : List Value), values.map Value.kind = o.parameters.map Parameter.kind →
    ∃ answer, o.predicate branch values = .ok answer

namespace Standard

/-! ## Values of the right kinds -/

section Answers

variable {v w : Value} (branch : Text)

lemma exists_equality (hv : v.kind = .string) : ∃ b, equality branch v = .ok b := by
  obtain ⟨s, rfl⟩ := Value.exists_eq_string hv
  exact ⟨_, rfl⟩

lemma exists_searching (p : Text → Text → Bool) (hv : v.kind = .string) :
    ∃ b, searching p branch v = .ok b := by
  obtain ⟨s, rfl⟩ := Value.exists_eq_string hv
  exact ⟨_, rfl⟩

lemma exists_counting (p : Text → Text → Nat → Bool) (unlike : Except Misuse Bool)
    (hv : v.kind = .string) (hw : w.kind = .number) :
    ∃ b, counting p unlike branch v w = .ok b := by
  obtain ⟨s, rfl⟩ := Value.exists_eq_string hv
  obtain ⟨n, rfl⟩ := Value.exists_eq_number hw
  exact ⟨_, rfl⟩

lemma exists_digitAt (hv : v.kind = .number) : ∃ b, digitAt branch v = .ok b := by
  obtain ⟨n, rfl⟩ := Value.exists_eq_number hv
  exact ⟨_, rfl⟩

lemma exists_digitSection (hv : v.kind = .number) (hw : w.kind = .number) :
    ∃ b, digitSection branch v w = .ok b := by
  obtain ⟨m, rfl⟩ := Value.exists_eq_number hv
  obtain ⟨n, rfl⟩ := Value.exists_eq_number hw
  exact ⟨_, rfl⟩

lemma exists_digitSectionUpTo (hv : v.kind = .number) (hw : w.kind = .string) :
    ∃ b, digitSectionUpTo branch v w = .ok b := by
  obtain ⟨n, rfl⟩ := Value.exists_eq_number hv
  obtain ⟨s, rfl⟩ := Value.exists_eq_string hw
  exact ⟨_, rfl⟩

lemma exists_ordering (p : Text → Text → Text → Bool) (hv : v.kind = .string)
    (hw : w.kind = .string) : ∃ b, ordering p branch v w = .ok b := by
  obtain ⟨s, rfl⟩ := Value.exists_eq_string hv
  obtain ⟨t, rfl⟩ := Value.exists_eq_string hw
  exact ⟨_, rfl⟩

lemma exists_measuring (p : Text → Nat → Bool) (sign : String) (hv : v.kind = .number) :
    ∃ b, measuring p sign branch v = .ok b := by
  obtain ⟨n, rfl⟩ := Value.exists_eq_number hv
  exact ⟨_, rfl⟩

end Answers

/-! ## Overloads by their number of parameters -/

/-- The kinds leave no other number of values than a predicate of one value takes. -/
lemma exists_eq_singleton_of_kinds {values : List Value} {p : Parameter}
    (h : values.map Value.kind = [p].map Parameter.kind) : ∃ v, values = [v] ∧ v.kind = p.kind := by
  obtain ⟨v, rest, rfl, hv, hrest⟩ := List.map_eq_cons_iff.mp h
  obtain rfl := List.map_eq_nil_iff.mp hrest
  exact ⟨v, rfl, hv⟩

lemma exists_eq_pair_of_kinds {values : List Value} {p q : Parameter}
    (h : values.map Value.kind = [p, q].map Parameter.kind) :
    ∃ v w, values = [v, w] ∧ v.kind = p.kind ∧ w.kind = q.kind := by
  obtain ⟨v, rest, rfl, hv, hrest⟩ := List.map_eq_cons_iff.mp h
  obtain ⟨w, rfl, hw⟩ := exists_eq_singleton_of_kinds hrest
  exact ⟨v, w, rfl, hv, hw⟩

section Overloads

variable {category : Category} {name called description : String} {examples : List String}

lemma isTotal_onName {p : Text → Bool} :
    (define category name description [] (onName called p) examples).IsTotal := by
  intro branch values hkinds
  obtain rfl := List.map_eq_nil_iff.mp hkinds
  exact ⟨p branch, rfl⟩

lemma isTotal_onValue {parameter : Parameter} {answer : Text → Value → Except Misuse Bool}
    (h : ∀ branch v, v.kind = parameter.kind → ∃ b, answer branch v = .ok b) :
    (define category name description [parameter] (onValue called parameter answer)
      examples).IsTotal := by
  intro branch values hkinds
  obtain ⟨v, rfl, hv⟩ := exists_eq_singleton_of_kinds hkinds
  obtain ⟨b, hb⟩ := h branch v hv
  refine ⟨b, ?_⟩
  simp only [define, onValue, hb]
  rfl

lemma isTotal_onValues {first second : Parameter}
    {answer : Text → Value → Value → Except Misuse Bool}
    (h : ∀ branch v w, v.kind = first.kind → w.kind = second.kind →
      ∃ b, answer branch v w = .ok b) :
    (define category name description [first, second] (onValues called first second answer)
      examples).IsTotal := by
  intro branch values hkinds
  obtain ⟨v, w, rfl, hv, hw⟩ := exists_eq_pair_of_kinds hkinds
  obtain ⟨b, hb⟩ := h branch v w hv hw
  refine ⟨b, ?_⟩
  simp only [define, onValues, hb]
  rfl

/-! ## The families of functions -/

lemma isTotal_search {p : Text → Text → Bool} : (search name description p examples).IsTotal :=
  isTotal_onValue fun branch _ hv => exists_searching branch p hv

lemma isTotal_count {p : Text → Text → Nat → Bool} {unlike : Except Misuse Bool} :
    (count name description p unlike examples).IsTotal :=
  isTotal_onValues fun branch _ _ hv hw => exists_counting branch p unlike hv hw

lemma isTotal_order {first second : Parameter} {p : Text → Text → Text → Bool}
    (hfirst : first.kind = .string) (hsecond : second.kind = .string) :
    (order name description first second p examples).IsTotal :=
  isTotal_onValues fun branch _ _ hv hw =>
    exists_ordering branch p (hv.trans hfirst) (hw.trans hsecond)

lemma isTotal_length {p : Text → Nat → Bool} {sign : String} :
    (length name description p sign examples).IsTotal :=
  isTotal_onValue fun branch _ hv => exists_measuring branch p sign hv

end Overloads

/-- What holds of each family holds of all standard overloads. -/
lemma forall_mem_overloads {P : Overload → Prop} (hcomparisons : ∀ o ∈ comparisons, P o)
    (hsearches : ∀ o ∈ searches, P o) (hcounts : ∀ o ∈ counts, P o)
    (hpositions : ∀ o ∈ digitPositions, P o) (horders : ∀ o ∈ orders, P o)
    (hlengths : ∀ o ∈ lengths, P o) (hcases : ∀ o ∈ cases, P o) : ∀ o ∈ overloads, P o := by
  simp only [overloads, List.forall_mem_append]
  exact ⟨⟨⟨⟨⟨⟨hcomparisons, hsearches⟩, hcounts⟩, hpositions⟩, horders⟩, hlengths⟩, hcases⟩

lemma isTotal_of_mem_comparisons : ∀ o ∈ comparisons, o.IsTotal := by
  simp only [comparisons, List.forall_mem_singleton]
  exact isTotal_onValue fun branch _ hv => exists_equality branch hv

lemma isTotal_of_mem_digitPositions : ∀ o ∈ digitPositions, o.IsTotal := by
  simp only [digitPositions, List.forall_mem_cons, List.not_mem_nil, false_imp_iff, implies_true,
    and_true]
  refine ⟨?isCharNum, ?charIsNum, ?isSectionNum, ?isSectionNumUpTo, isTotal_onName, isTotal_onName⟩
  case isCharNum => exact isTotal_onValue fun branch _ hv => exists_digitAt branch hv
  case charIsNum => exact isTotal_onValue fun branch _ hv => exists_digitAt branch hv
  case isSectionNum =>
    exact isTotal_onValues fun branch _ _ hv hw => exists_digitSection branch hv hw
  case isSectionNumUpTo =>
    exact isTotal_onValues fun branch _ _ hv hw => exists_digitSectionUpTo branch hv hw

/-- **Every standard overload is total.** -/
theorem isTotal_of_mem_overloads {o : Overload} (ho : o ∈ overloads) : o.IsTotal := by
  have hsearches : ∀ o ∈ searches, o.IsTotal := by
    simp [searches, isTotal_search]
  have hcounts : ∀ o ∈ counts, o.IsTotal := by
    simp [counts, isTotal_count]
  have horders : ∀ o ∈ orders, o.IsTotal := by
    simp [orders, isTotal_order, stringParameter]
  have hlengths : ∀ o ∈ lengths, o.IsTotal := by
    simp [lengths, isTotal_length]
  have hcases : ∀ o ∈ cases, o.IsTotal := by
    simp [cases, isTotal_onName]
  exact forall_mem_overloads isTotal_of_mem_comparisons hsearches hcounts isTotal_of_mem_digitPositions
    horders hlengths hcases o ho

end Standard

/-! ## The registry -/

/-- The registry of the standard functions holds the standard overloads under their names. -/
lemma Registry.mem_overloads_standard_iff {name : Text} {o : Overload} :
    o ∈ standard.overloads name ↔ o ∈ Standard.overloads ∧ o.name = name := by
  rw [overloads, standard, Grouping.get_ofList, List.mem_filter, decide_eq_true_eq]

end BranchPolicy
