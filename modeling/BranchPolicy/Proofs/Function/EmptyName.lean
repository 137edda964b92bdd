import BranchPolicy.Proofs.Function.Standard

/-!
# The standard functions on the empty name

Every predicate guards against the empty branch name in a way of its own: some look at the name first,
some run out of characters, some count letters that are not there.  One answers positively all the same,
the comparison with the empty value.

* `Overload.RejectsEmpty` — the overload answers negatively about the empty name, whatever values it gets.
* `rejectsEmpty_onName`, `rejectsEmpty_onValue`, `rejectsEmpty_onValues` — overloads with no, one and two
  parameters.
* `rejectsEmpty_of_mem_overloads` — every standard function but the comparison rejects the empty name.
* **`predicate_nil_eq_true_iff`** — which standard overload answers positively about the empty name, and
  for which values.
-/

namespace BranchPolicy

/-- **An overload rejects the empty name** when it answers negatively about it for all values whose kinds
are those of its parameters. -/
def Overload.RejectsEmpty (o : Overload) : Prop :=
  ∀ values : List Value, values.map Value.kind = o.parameters.map Parameter.kind →
    o.predicate [] values = .ok false

namespace Standard

/-! ## Overloads by their number of parameters -/

section Overloads

variable {category : Category} {name called description : String} {examples : List String}

lemma rejectsEmpty_onName {p : Text → Bool} (h : p [] = false) :
    (define category name description [] (onName called p) examples).RejectsEmpty := by
  intro values hkinds
  obtain rfl := List.map_eq_nil_iff.mp hkinds
  exact congrArg Except.ok h

lemma rejectsEmpty_onValue {parameter : Parameter} {answer : Text → Value → Except Misuse Bool}
    (h : ∀ v : Value, v.kind = parameter.kind → answer [] v = .ok false) :
    (define category name description [parameter] (onValue called parameter answer)
      examples).RejectsEmpty := by
  intro values hkinds
  obtain ⟨v, rfl, hv⟩ := exists_eq_singleton_of_kinds hkinds
  simp only [define, onValue, h v hv]
  rfl

lemma rejectsEmpty_onValues {first second : Parameter}
    {answer : Text → Value → Value → Except Misuse Bool}
    (h : ∀ v w : Value, v.kind = first.kind → w.kind = second.kind → answer [] v w = .ok false) :
    (define category name description [first, second] (onValues called first second answer)
      examples).RejectsEmpty := by
  intro values hkinds
  obtain ⟨v, w, rfl, hv, hw⟩ := exists_eq_pair_of_kinds hkinds
  simp only [define, onValues, h v w hv hw]
  rfl

/-! ## The families of functions -/

lemma rejectsEmpty_search {p : Text → Text → Bool} (h : ∀ s, p [] s = false) :
    (search name description p examples).RejectsEmpty := by
  refine rejectsEmpty_onValue fun v hv => ?_
  obtain ⟨s, rfl⟩ := Value.exists_eq_string hv
  exact congrArg Except.ok (h s)

lemma rejectsEmpty_count {p : Text → Text → Nat → Bool} {unlike : Except Misuse Bool}
    (h : ∀ s n, p [] s n = false) : (count name description p unlike examples).RejectsEmpty := by
  refine rejectsEmpty_onValues fun v w hv hw => ?_
  obtain ⟨s, rfl⟩ := Value.exists_eq_string hv
  obtain ⟨n, rfl⟩ := Value.exists_eq_number hw
  exact congrArg Except.ok (h s n)

lemma rejectsEmpty_order {first second : Parameter} {p : Text → Text → Text → Bool}
    (hfirst : first.kind = .string) (hsecond : second.kind = .string)
    (h : ∀ s t, p [] s t = false) :
    (order name description first second p examples).RejectsEmpty := by
  refine rejectsEmpty_onValues fun v w hv hw => ?_
  obtain ⟨s, rfl⟩ := Value.exists_eq_string (hv.trans hfirst)
  obtain ⟨t, rfl⟩ := Value.exists_eq_string (hw.trans hsecond)
  exact congrArg Except.ok (h s t)

lemma rejectsEmpty_length {p : Text → Nat → Bool} {sign : String} (h : ∀ n, p [] n = false) :
    (length name description p sign examples).RejectsEmpty := by
  refine rejectsEmpty_onValue fun v hv => ?_
  obtain ⟨n, rfl⟩ := Value.exists_eq_number hv
  exact congrArg Except.ok (h n)

end Overloads

/-! ## The table -/

/-- No section of the empty name ends at a delimiter, as none occurs. -/
lemma isDigitSectionUpTo_nil (first : Nat) (delimiter : Text) :
    Branch.isDigitSectionUpTo [] first delimiter = false := by
  cases delimiter with
  | nil => rfl
  | cons d ds => simp [Branch.isDigitSectionUpTo]

lemma rejectsEmpty_of_mem_digitPositions : ∀ o ∈ digitPositions, o.RejectsEmpty := by
  have hposition : ∀ v : Value, v.kind = characterPosition.kind → digitAt [] v = .ok false := by
    intro v hv
    obtain ⟨n, rfl⟩ := Value.exists_eq_number hv
    rfl
  simp only [digitPositions, List.forall_mem_cons, List.not_mem_nil, false_imp_iff, implies_true,
    and_true]
  refine ⟨rejectsEmpty_onValue hposition, rejectsEmpty_onValue hposition, ?isSectionNum,
    ?isSectionNumUpTo, rejectsEmpty_onName rfl, rejectsEmpty_onName rfl⟩
  case isSectionNum =>
    refine rejectsEmpty_onValues fun v w hv hw => ?_
    obtain ⟨m, rfl⟩ := Value.exists_eq_number hv
    obtain ⟨n, rfl⟩ := Value.exists_eq_number hw
    rfl
  case isSectionNumUpTo =>
    refine rejectsEmpty_onValues fun v w hv hw => ?_
    obtain ⟨n, rfl⟩ := Value.exists_eq_number hv
    obtain ⟨s, rfl⟩ := Value.exists_eq_string hw
    exact congrArg Except.ok (isDigitSectionUpTo_nil n s)

/-- **Every standard function rejects the empty name**, the comparison apart. -/
theorem rejectsEmpty_of_mem_overloads {o : Overload} (ho : o ∈ overloads)
    (hname : o.name ≠ "equalTo".toList) : o.RejectsEmpty := by
  have hsearches : ∀ o ∈ searches, o.RejectsEmpty := by
    simp only [searches, List.forall_mem_cons]
    refine ⟨?_, ?_, ?_, ?_, ?_, ?_, List.forall_mem_nil _⟩
    all_goals exact rejectsEmpty_search fun _ => rfl
  have hcounts : ∀ o ∈ counts, o.RejectsEmpty := by
    simp only [counts, List.forall_mem_cons]
    refine ⟨?_, ?_, ?_, List.forall_mem_nil _⟩
    all_goals exact rejectsEmpty_count fun _ _ => rfl
  have horders : ∀ o ∈ orders, o.RejectsEmpty := by
    simp only [orders, List.forall_mem_cons]
    refine ⟨?_, ?_, List.forall_mem_nil _⟩
    all_goals exact rejectsEmpty_order rfl rfl fun _ _ => rfl
  have hlengths : ∀ o ∈ lengths, o.RejectsEmpty := by
    simp only [lengths, List.forall_mem_cons]
    refine ⟨?_, ?_, List.forall_mem_nil _⟩
    all_goals exact rejectsEmpty_length fun _ => rfl
  have hcases : ∀ o ∈ cases, o.RejectsEmpty := by
    simp only [cases, List.forall_mem_cons]
    refine ⟨?_, ?_, List.forall_mem_nil _⟩
    all_goals exact rejectsEmpty_onName rfl
  have hfamilies : ∀ o ∈ overloads, o.name = "equalTo".toList ∨ o.RejectsEmpty :=
    forall_mem_overloads (fun o ho => .inl (congrArg Overload.name (List.mem_singleton.mp ho)))
      (fun o ho => .inr (hsearches o ho)) (fun o ho => .inr (hcounts o ho))
      (fun o ho => .inr (rejectsEmpty_of_mem_digitPositions o ho)) (fun o ho => .inr (horders o ho))
      (fun o ho => .inr (hlengths o ho)) (fun o ho => .inr (hcases o ho))
  exact (hfamilies o ho).resolve_left hname

/-! ## The comparison -/

lemma mem_comparisons_of_name {o : Overload} (ho : o ∈ overloads)
    (hname : o.name = "equalTo".toList) : o ∈ comparisons := by
  have hothers : ∀ o ∈ overloads.tail, o.name ≠ "equalTo".toList := by decide
  have hsplit : overloads = comparisons ++ overloads.tail := rfl
  rw [hsplit] at ho
  exact (List.mem_append.mp ho).resolve_right fun h => hothers o h hname

lemma equals_nil (value : Text) : Branch.equals [] value = value.isEmpty := by
  cases value with
  | nil => rfl
  | cons c cs => simp [Branch.equals]

/-- **The one positive answer about the empty name** is that of the comparison with the empty value. -/
theorem predicate_nil_eq_true_iff {o : Overload} (ho : o ∈ overloads) {values : List Value}
    (hkinds : values.map Value.kind = o.parameters.map Parameter.kind) :
    o.predicate [] values = .ok true ↔ o.name = "equalTo".toList ∧ values = [.string []] := by
  by_cases hname : o.name = "equalTo".toList
  · obtain rfl := List.mem_singleton.mp (mem_comparisons_of_name ho hname)
    obtain ⟨v, rfl, hv⟩ := exists_eq_singleton_of_kinds hkinds
    obtain ⟨s, rfl⟩ := Value.exists_eq_string hv
    have hanswer : (onValue "equalTo" comparedValue equality) [] [.string s]
        = .ok (Branch.equals [] s) := rfl
    simp [define, hanswer, equals_nil]
  · have hanswer := rejectsEmpty_of_mem_overloads ho hname values hkinds
    rw [hanswer]
    exact ⟨fun h => absurd h (by simp), fun h => absurd h.1 hname⟩

end Standard

end BranchPolicy
