import BranchPolicy.Proofs.Resolution.Unambiguous

/-!
# Which calls resolve

`Registry.resolve` sorts the overloads of a function by the number of their parameters and then goes
through arguments and parameters side by side.  Nothing of this is left in what it decides: a call
resolves exactly when the kinds of its arguments, taken as a whole, are those of an overload and each
number in it can be read.

* `exists_fits_iff` — arguments fit when their kinds are those of the parameters and their numbers have
  values.
* `filter_accepts_eq_singleton` — in a registry that was built one overload of a function has given
  kinds at most.
* `exists_fault_of_resolve_ne_ok`, `CallFault.message_ne_empty` — a call that does not resolve has a fault
  with a message.
* **`resolve_exact`** — which calls resolve, to what, and what becomes of the others.
-/

namespace BranchPolicy

/-! ## Fitting as a whole -/

/-- **Arguments fit parameters** when the kinds agree and every number has a value. -/
lemma exists_fits_iff {as : List Argument} {ps : List Parameter} :
    (∃ vs, Fits as ps vs) ↔ as.map Argument.kind = ps.map Parameter.kind ∧
      ∀ digits, Argument.number digits ∈ as → ∃ n, readNumber digits = .ok (some n) := by
  constructor
  · rintro ⟨vs, hfits⟩
    refine ⟨hfits.map_kind, fun digits hmem => ?_⟩
    have hvalue : (Argument.number digits).value ∈ vs.map fun v => .ok (some v) :=
      hfits.map_value ▸ List.mem_map_of_mem hmem
    obtain ⟨v, -, hv⟩ := List.mem_map.mp hvalue
    obtain ⟨n, hn, -⟩ := value_number_eq_some_iff.mp hv.symm
    exact ⟨n, hn⟩
  · rintro ⟨hkinds, hnumbers⟩
    refine exists_fits hkinds fun a ha => ?_
    cases a with
    | string content => exact ⟨.string content, rfl⟩
    | number digits =>
        obtain ⟨n, hn⟩ := hnumbers digits ha
        exact ⟨.number n, value_number_eq_some_iff.mpr ⟨n, hn, rfl⟩⟩

lemma accepts_signature_iff {o : Overload} {as : List Argument} :
    o.signature.accepts (as.map Argument.kind) = true
      ↔ as.map Argument.kind = o.parameters.map Parameter.kind := by
  rw [Signature.accepts, beq_iff_eq, eq_comm]
  rfl

/-- A text ends in a list when there is a `(` in it and its last character is `)`. -/
lemma endsInList_iff {t : Text} : endsInList t = true ↔ '(' ∈ t ∧ [')'] <:+ t := by
  rw [endsInList, Bool.and_eq_true, List.contains_iff_mem, beq_iff_eq, List.getLast?_eq_some_iff]
  exact and_congr_right fun _ => exists_congr fun _ => eq_comm

/-! ## The overload that matches -/

/-- **Of the overloads of a function one matches**, if any does. -/
lemma filter_accepts_eq_singleton {declarations : List Declaration} {r : Registry}
    (hbuild : Registry.build declarations = .ok r) {name : Text} {o : Overload}
    (ho : o ∈ r.overloads name) {kinds : List Kind} (hmatch : o.signature.accepts kinds = true) :
    (r.overloads name).filter (·.signature.accepts kinds) = [o] := by
  refine Registry.filter_eq_singleton_of_unique (Registry.nodup_overloads_of_build hbuild name) ho hmatch ?_
  intro o' ho' hmatch'
  have hkinds : o'.signature.kinds = o.signature.kinds :=
    (beq_iff_eq.mp hmatch').trans (beq_iff_eq.mp hmatch).symm
  exact Registry.isUnambiguous_of_build hbuild name o' ho' o ho hkinds

/-! ## Calls that do not resolve -/

/-- Every fault of a call is reported by a sentence. -/
lemma CallFault.message_ne_empty (fault : CallFault) : fault.message ≠ "" := by
  have hends : ∀ s t : String, t ≠ "" → s ++ t ≠ "" :=
    fun s t ht h => ht (String.append_eq_empty_iff.mp h).2
  cases fault with
  | notUsable call => exact hends _ _ (by simp)
  | missingArgument function => exact hends _ _ (by simp)
  | argumentCount function actual expected => exact hends _ _ (by simp)
  | argumentKind position function => exact hends _ _ (by simp)

/-- A call without an overlong number resolves or has a fault. -/
lemma exists_fault_of_resolve_ne_ok {r : Registry} {c : Call} (hread : Readable c.arguments)
    (hfail : ∀ res, r.resolve c ≠ .ok res) :
    ∃ fault : CallFault, r.resolve c = .error (.fault (.call fault)) := by
  cases hresolve : r.resolve c with
  | ok res => exact absurd hresolve (hfail res)
  | error refusal =>
      cases refusal with
      | overlong => exact absurd hresolve (resolve_ne_overlong hread)
      | fault fault =>
          rw [Registry.resolve_eq] at hresolve
          split_ifs at hresolve
          · cases hresolve
            exact ⟨_, rfl⟩
          · cases hresolve
            exact ⟨_, rfl⟩
          · cases hresolve
            exact ⟨_, rfl⟩
          · obtain ⟨position, rfl⟩ := exists_argumentKind_of_chooseOverload hresolve
            exact ⟨_, rfl⟩

/-! ## What resolves -/

/-- **Resolution is exact.**  Take a registry that was built and a call in which no number has more
digits than are read.

* The call resolves exactly when its text has a `(` and ends with `)`, an overload registered under its
  name has the kinds of its arguments, and every number among them has a value.
* It then resolves to the one overload of its function that has these kinds.
* If it does not resolve, it has a fault, and the sentence that reports the fault is not empty. -/
theorem Registry.resolve_exact {declarations : List Declaration} {r : Registry}
    (hbuild : build declarations = .ok r) {c : Call} (hread : Readable c.arguments) :
    ((∃ res, r.resolve c = .ok res) ↔
        ('(' ∈ c.render ∧ [')'] <:+ c.render) ∧
          (∃ o ∈ r.overloads c.name, o.signature.accepts c.kinds = true) ∧
          ∀ digits, Argument.number digits ∈ c.arguments → ∃ n, readNumber digits = .ok (some n)) ∧
      (∀ res, r.resolve c = .ok res →
        (r.overloads c.name).filter (·.signature.accepts c.kinds) = [res.overload]) ∧
      ((∀ res, r.resolve c ≠ .ok res) →
        ∃ fault : CallFault, r.resolve c = .error (.fault (.call fault)) ∧ fault.message ≠ "") := by
  refine ⟨⟨?_, ?_⟩, ?_, ?_⟩
  · rintro ⟨res, hres⟩
    obtain ⟨hform, hregistered, hfits⟩ := resolves_of_resolve hres
    obtain ⟨hkinds, hnumbers⟩ := exists_fits_iff.mp ⟨_, hfits⟩
    exact ⟨endsInList_iff.mp hform, ⟨_, hregistered, accepts_signature_iff.mpr hkinds⟩, hnumbers⟩
  · rintro ⟨hform, ⟨o, ho, hmatch⟩, hnumbers⟩
    obtain ⟨vs, hfits⟩ := exists_fits_iff.mpr ⟨accepts_signature_iff.mp hmatch, hnumbers⟩
    exact exists_resolve_eq_ok (endsInList_iff.mpr hform) ho hread hfits
  · intro res hres
    obtain ⟨-, hregistered, hfits⟩ := resolves_of_resolve hres
    exact filter_accepts_eq_singleton hbuild hregistered
      (accepts_signature_iff.mpr hfits.map_kind)
  · intro hfail
    obtain ⟨fault, hfault⟩ := exists_fault_of_resolve_ne_ok hread hfail
    exact ⟨fault, hfault, fault.message_ne_empty⟩

/-- Of the two overloads of `isSectionNum` the second takes a number and a string, and none takes them
the other way round. -/
theorem Registry.resolve_exact_section :
    (∃ res, standard.resolve (Call.parse "isSectionNum(8, '-')".toList) = .ok res ∧
        (standard.overloads "isSectionNum".toList).filter (·.signature.accepts [.number, .string])
          = [res.overload]) ∧
      ∃ fault : CallFault, standard.resolve (Call.parse "isSectionNum('-', 8)".toList)
          = .error (.fault (.call fault)) ∧ fault.message ≠ "" := by
  have hread : Readable (Call.parse "isSectionNum(8, '-')".toList).arguments :=
    readable_of_length_render (by decide)
  have hread' : Readable (Call.parse "isSectionNum('-', 8)".toList).arguments :=
    readable_of_length_render (by decide)
  obtain ⟨hresolves, hmatches, -⟩ := resolve_exact build_standard hread
  obtain ⟨hresolves', -, hfails'⟩ := resolve_exact build_standard hread'
  constructor
  · have harguments : (Call.parse "isSectionNum(8, '-')".toList).arguments
        = [.number ['8'], .string ['-']] := by decide
    have hnumbers : ∀ digits, Argument.number digits ∈ [.number ['8'], .string ['-']] →
        ∃ n, readNumber digits = .ok (some n) := by
      intro digits hmem
      obtain rfl : digits = ['8'] := by simpa using hmem
      exact ⟨8, rfl⟩
    obtain ⟨res, hres⟩ := hresolves.mpr ⟨by decide, by decide, harguments ▸ hnumbers⟩
    exact ⟨res, hres, hmatches res hres⟩
  · refine hfails' fun res hres => ?_
    exact absurd (hresolves'.mp ⟨res, hres⟩).2.1 (by decide)

end BranchPolicy
