import BranchPolicy.Proofs.Function.Registry

/-!
# Defects of declarations

A declaration makes an overload unless it lacks something, and is then reported for the first thing that it
lacks: its name, its predicate, or a kind or a name of one of its parameters, the parameters in order.

* `ParameterDeclaration.IsDefective`, `Declaration.IsDefective` — what declarations may lack.
* `ParameterDeclaration.HasDefect`, `Declaration.HasDefect` — what they are reported for.
* `ParameterDeclaration.isDefective_iff`, `Declaration.isDefective_iff` — a declaration is defective when
  there is something to report.
* `defineParameters_eq_error_iff`, **`Declaration.define_eq_error_iff`** — defining fails with what is
  reported.
* **`Declaration.declaration_of_define`** — the overload of a declaration is just what was declared.
-/

namespace BranchPolicy

/-! ## Parameters -/

namespace ParameterDeclaration

/-- A declared parameter without a kind or without a name. -/
def IsDefective (p : ParameterDeclaration) : Prop :=
  p.kind = none ∨ p.name.getD [] = []

instance : DecidablePred IsDefective := fun _ => inferInstanceAs (Decidable (_ ∨ _))

/-- **What a declared parameter is reported for**, the missing kind before the missing name.  The report
names the function and the position of the parameter. -/
inductive HasDefect (function : Text) (position : Nat) (p : ParameterDeclaration) :
    RegistrationError → Prop
  | noKind (hkind : p.kind = none) : HasDefect function position p (.noKind position function)
  | noName (hkind : p.kind ≠ none) (hname : p.name.getD [] = []) :
      HasDefect function position p (.noParameterName position function)

variable {function : Text} {position : Nat} {p : ParameterDeclaration} {e e' : RegistrationError}

lemma isDefective_iff (function : Text) (position : Nat) :
    p.IsDefective ↔ ∃ e, HasDefect function position p e := by
  constructor
  · intro h
    by_cases hkind : p.kind = none
    · exact ⟨_, .noKind hkind⟩
    · exact ⟨_, .noName hkind (h.resolve_left hkind)⟩
  · rintro ⟨e, hkind | ⟨-, hname⟩⟩
    · exact Or.inl hkind
    · exact Or.inr hname

lemma HasDefect.unique (h : HasDefect function position p e) (h' : HasDefect function position p e') :
    e = e' := by
  cases h with
  | noKind hkind =>
      cases h' with
      | noKind => rfl
      | noName hkind' => exact absurd hkind hkind'
  | noName hkind =>
      cases h' with
      | noKind hkind' => exact absurd hkind' hkind
      | noName => rfl

/-- The parameter of a declaration that lacks nothing. -/
lemma exists_eq_of_not_isDefective (h : ¬ p.IsDefective) :
    ∃ name kind, name ≠ [] ∧ p = ⟨some name, some kind, p.description⟩ := by
  obtain ⟨_ | name, _ | kind, description⟩ := p
  · exact absurd (Or.inl rfl) h
  · exact absurd (Or.inr rfl) h
  · exact absurd (Or.inl rfl) h
  · exact ⟨name, kind, fun hname => h (Or.inr hname), rfl⟩

end ParameterDeclaration

section Parameters

variable {function : Text} {position : Nat} {p : ParameterDeclaration} {ps : List ParameterDeclaration}
  {qs : List Parameter} {e : RegistrationError}

lemma defineParameters_cons_of_hasDefect (h : p.HasDefect function position e) :
    defineParameters function position (p :: ps) = .error e := by
  rw [defineParameters]
  cases h with
  | noKind hkind => rw [hkind]
  | noName hkind hname =>
      obtain ⟨kind, hkind⟩ := Option.ne_none_iff_exists'.mp hkind
      rw [hkind, hname]

lemma defineParameters_cons_of_not_isDefective (h : ¬ p.IsDefective) :
    ∃ q : Parameter, p = ⟨some q.name, some q.kind, q.description⟩ ∧
      defineParameters function position (p :: ps)
        = (defineParameters function (position + 1) ps).map (q :: ·) := by
  obtain ⟨name, kind, hname, hp⟩ := ParameterDeclaration.exists_eq_of_not_isDefective h
  obtain ⟨c, cs, rfl⟩ := List.exists_cons_of_ne_nil hname
  refine ⟨⟨c :: cs, kind, p.description⟩, hp, ?_⟩
  rw [hp, defineParameters, Option.getD_some]
  cases defineParameters function (position + 1) ps <;> rfl

/-- **Defining parameters fails with the report on the first defective one.** -/
theorem defineParameters_eq_error_iff :
    defineParameters function position ps = .error e ↔
      ∃ before p after, ps = before ++ p :: after ∧ (∀ q ∈ before, ¬ q.IsDefective) ∧
        p.HasDefect function (position + before.length) e := by
  induction ps generalizing position with
  | nil => simp [defineParameters]
  | cons p ps ih =>
      by_cases hp : p.IsDefective
      · obtain ⟨e', he'⟩ := (ParameterDeclaration.isDefective_iff function position).mp hp
        rw [defineParameters_cons_of_hasDefect he', Except.error.injEq]
        constructor
        · rintro rfl
          exact ⟨[], p, ps, rfl, by simp, he'⟩
        · rintro ⟨_ | ⟨q, before⟩, p', after, h, hbefore, hdefect⟩
          · obtain ⟨rfl, -⟩ := List.cons.inj h
            exact he'.unique hdefect
          · obtain ⟨rfl, -⟩ := List.cons.inj h
            exact absurd hp (hbefore p List.mem_cons_self)
      · obtain ⟨q, -, hcons⟩ := @defineParameters_cons_of_not_isDefective function position p ps hp
        have hrest : defineParameters function position (p :: ps) = .error e ↔
            defineParameters function (position + 1) ps = .error e := by
          rw [hcons]
          cases defineParameters function (position + 1) ps <;> simp [Except.map]
        refine hrest.trans (ih.trans ?_)
        constructor
        · rintro ⟨before, p', after, rfl, hbefore, hdefect⟩
          refine ⟨p :: before, p', after, rfl, List.forall_mem_cons.mpr ⟨hp, hbefore⟩, ?_⟩
          rwa [List.length_cons, ← Nat.add_assoc, Nat.add_right_comm]
        · rintro ⟨_ | ⟨q', before⟩, p', after, h, hbefore, hdefect⟩
          · obtain ⟨rfl, -⟩ := List.cons.inj h
            exact absurd ((ParameterDeclaration.isDefective_iff _ _).mpr ⟨e, hdefect⟩) hp
          · obtain ⟨rfl, rfl⟩ := List.cons.inj h
            refine ⟨before, p', after, rfl, (List.forall_mem_cons.mp hbefore).2, ?_⟩
            rwa [List.length_cons, ← Nat.add_assoc, Nat.add_right_comm] at hdefect

/-- Parameters that are defined are just what was declared. -/
lemma map_declaration_of_defineParameters (h : defineParameters function position ps = .ok qs) :
    qs.map (fun q => (⟨some q.name, some q.kind, q.description⟩ : ParameterDeclaration)) = ps := by
  induction ps generalizing position qs with
  | nil =>
      obtain rfl := Except.ok.inj h
      rfl
  | cons p ps ih =>
      by_cases hp : p.IsDefective
      · obtain ⟨e, he⟩ := (ParameterDeclaration.isDefective_iff function position).mp hp
        exact absurd ((defineParameters_cons_of_hasDefect he).symm.trans h) (by simp)
      · obtain ⟨q, hq, hcons⟩ := @defineParameters_cons_of_not_isDefective function position p ps hp
        rw [hcons] at h
        cases hrest : defineParameters function (position + 1) ps with
        | error e => exact absurd (hrest ▸ h) (by simp [Except.map])
        | ok rest =>
            rw [hrest] at h
            obtain rfl := Except.ok.inj h
            rw [List.map_cons, ih hrest, ← hq]

end Parameters

/-! ## Declarations -/

namespace Declaration

/-- A declaration without a name that can be seen, without a predicate, or with a defective parameter. -/
def IsDefective (d : Declaration) : Prop :=
  (d.name.getD []).isBlank = true ∨ d.predicate = none ∨ ∃ p ∈ d.parameters, p.IsDefective

/-- **What a declaration is reported for**: the name, then the predicate, then the first defective
parameter. -/
inductive HasDefect (d : Declaration) : RegistrationError → Prop
  | emptyName (hname : (d.name.getD []).isBlank = true) : HasDefect d .emptyName
  | noPredicate (hname : (d.name.getD []).isBlank = false) (hpredicate : d.predicate = none) :
      HasDefect d (.noPredicate (d.name.getD []))
  | parameter {before : List ParameterDeclaration} {p : ParameterDeclaration}
      {after : List ParameterDeclaration} {e : RegistrationError}
      (hname : (d.name.getD []).isBlank = false) (hpredicate : d.predicate ≠ none)
      (hsplit : d.parameters = before ++ p :: after) (hbefore : ∀ q ∈ before, ¬ q.IsDefective)
      (hdefect : p.HasDefect (d.name.getD []) (before.length + 1) e) : HasDefect d e

variable {d : Declaration} {o : Overload} {e : RegistrationError}

/-- A declaration is defective when there is something to report. -/
lemma isDefective_iff : d.IsDefective ↔ ∃ e, d.HasDefect e := by
  constructor
  · intro h
    cases hname : (d.name.getD []).isBlank with
    | true => exact ⟨_, .emptyName hname⟩
    | false =>
        rcases h with hname' | hrest
        · exact absurd (hname.symm.trans hname') Bool.false_ne_true
        · by_cases hpredicate : d.predicate = none
          · exact ⟨_, .noPredicate hname hpredicate⟩
          · obtain ⟨q, hq, hdefective⟩ := hrest.resolve_left hpredicate
            obtain ⟨p, hp⟩ : ∃ p, d.parameters.find? (·.IsDefective) = some p :=
              Option.isSome_iff_exists.mp (List.find?_isSome.mpr ⟨q, hq, decide_eq_true hdefective⟩)
            obtain ⟨hdefective, before, after, hsplit, hbefore⟩ := List.find?_eq_some_iff_append.mp hp
            obtain ⟨e, he⟩ := (ParameterDeclaration.isDefective_iff (d.name.getD [])
              (before.length + 1)).mp (of_decide_eq_true hdefective)
            exact ⟨e, .parameter hname hpredicate hsplit (by simpa using hbefore) he⟩
  · rintro ⟨e, hname | ⟨-, hpredicate⟩ | ⟨-, -, hsplit, -, hdefect⟩⟩
    · exact Or.inl hname
    · exact Or.inr (Or.inl hpredicate)
    · refine Or.inr (Or.inr ⟨_, hsplit ▸ List.mem_append_right _ List.mem_cons_self, ?_⟩)
      exact (ParameterDeclaration.isDefective_iff _ _).mpr ⟨e, hdefect⟩

/-- With a name and a predicate, defining is defining the parameters. -/
lemma define_eq_map {predicate : Predicate} (hname : (d.name.getD []).isBlank = false)
    (hpredicate : d.predicate = some predicate) :
    d.define = (defineParameters (d.name.getD []) 1 d.parameters).map fun parameters =>
      ⟨d.name.getD [], d.description, d.category, parameters, predicate, d.examples⟩ := by
  rw [define, hname, if_neg Bool.false_ne_true, hpredicate]
  cases defineParameters (d.name.getD []) 1 d.parameters <;> rfl

/-- **Defining fails with what is reported.** -/
theorem define_eq_error_iff : d.define = .error e ↔ d.HasDefect e := by
  cases hname : (d.name.getD []).isBlank with
  | true =>
      rw [define, hname, if_pos rfl, Except.error.injEq]
      constructor
      · rintro rfl
        exact .emptyName hname
      · rintro (hname' | ⟨hname', -⟩ | ⟨hname', -, -, -, -⟩)
        · rfl
        · exact absurd (hname'.symm.trans hname) Bool.false_ne_true
        · exact absurd (hname'.symm.trans hname) Bool.false_ne_true
  | false =>
      cases hpredicate : d.predicate with
      | none =>
          rw [define, hname, if_neg Bool.false_ne_true, hpredicate, Except.error.injEq]
          constructor
          · rintro rfl
            exact .noPredicate hname hpredicate
          · rintro (hname' | - | ⟨-, hpredicate', -, -, -⟩)
            · exact absurd (hname.symm.trans hname') Bool.false_ne_true
            · rfl
            · exact absurd hpredicate hpredicate'
      | some predicate =>
          have hparameters : d.define = .error e ↔
              defineParameters (d.name.getD []) 1 d.parameters = .error e := by
            rw [define_eq_map hname hpredicate]
            cases defineParameters (d.name.getD []) 1 d.parameters <;> simp [Except.map]
          refine hparameters.trans (defineParameters_eq_error_iff.trans ?_)
          constructor
          · rintro ⟨before, p, after, hsplit, hbefore, hdefect⟩
            rw [Nat.add_comm] at hdefect
            exact .parameter hname (by simp [hpredicate]) hsplit hbefore hdefect
          · rintro (hname' | ⟨-, hpredicate'⟩ | ⟨-, -, hsplit, hbefore, hdefect⟩)
            · exact absurd (hname.symm.trans hname') Bool.false_ne_true
            · exact absurd (hpredicate.symm.trans hpredicate') (by simp)
            · rw [Nat.add_comm] at hdefect
              exact ⟨_, _, _, hsplit, hbefore, hdefect⟩

/-- Defining succeeds when there is no defect. -/
lemma exists_define_iff : (∃ o, d.define = .ok o) ↔ ¬ d.IsDefective := by
  rw [isDefective_iff]
  simp only [← define_eq_error_iff]
  cases d.define <;> simp

/-- **The overload of a declaration is just what was declared.** -/
theorem declaration_of_define (h : d.define = .ok o) : o.declaration = d := by
  have hsound := exists_define_iff.mp ⟨o, h⟩
  obtain ⟨_ | name, description, category, parameters, _ | predicate, examples⟩ := d
  · exact absurd (Or.inl rfl) hsound
  · exact absurd (Or.inl rfl) hsound
  · exact absurd (Or.inr (Or.inl rfl)) hsound
  · have hname : name.isBlank = false := Bool.eq_false_iff.mpr fun hname => hsound (Or.inl hname)
    rw [@define_eq_map ⟨some name, description, category, parameters, some predicate, examples⟩
      predicate hname rfl, Option.getD_some] at h
    cases hparameters : defineParameters name 1 parameters with
    | error e => exact absurd (hparameters ▸ h) (by simp [Except.map])
    | ok qs =>
        rw [hparameters] at h
        obtain rfl := Except.ok.inj h
        rw [Overload.declaration, map_declaration_of_defineParameters hparameters]

end Declaration

end BranchPolicy
