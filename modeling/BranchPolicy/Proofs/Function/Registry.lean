import BranchPolicy.Function.Standard
import BranchPolicy.Proofs.Traversal
import Mathlib.Data.List.Nodup
import Mathlib.Data.List.Perm.Basic

/-!
# Registries that were built

A registry can only be built by registering declarations one after the other.  What comes of it is
settled here once for all: which lists of declarations make a registry, and what each function of the
registry then holds.

* `mem_names_of_mem_overloads` — a name with an overload is one of the names of the registry.
* `register_of_isNew`, `register_of_not_isNew` — what registering one overload does.
* `declare_eq_ok_iff`, `foldlM_declare_eq_ok_iff` — what registering one declaration does, and what
  registering one after the other does.
* **`build_eq_ok_iff`** — a registry is built exactly when no declaration lacks anything and no two
  overloads have one signature.
* `build_declarations` — overloads with names, no two of one signature, can all be registered.
* `build_standard` — the registry of the standard functions is a registry that was built.
* **`isFiled_of_build`** — every overload stands under its own name, and no name is blank.
* **`isUnambiguous_of_build`** — the kinds of its parameters tell an overload from the others of its
  function.
* `filter_eq_singleton_of_unique` — the look-up of what is there once.
* `nodup_overloads_of_build`, `overloads_ne_nil_of_mem_names` — a function has overloads, each once.
* `mem_overloads_of_subset`, `exists_build_of_perm` — declarations that are added or reordered.
-/

namespace BranchPolicy

/-! ## Defining -/

lemma Declaration.not_isBlank_of_define {d : Declaration} {o : Overload} (h : d.define = .ok o) :
    o.name.isBlank = false := by
  rw [Declaration.define] at h
  by_cases hname : (d.name.getD []).isBlank = true
  · rw [if_pos hname] at h
    exact absurd h (by simp)
  · rw [if_neg hname] at h
    cases hpredicate : d.predicate with
    | none =>
        rw [hpredicate] at h
        exact absurd h (by simp)
    | some predicate =>
        rw [hpredicate] at h
        cases hparameters : defineParameters (d.name.getD []) 1 d.parameters with
        | error e => simp [hparameters, bind, Except.bind] at h
        | ok parameters =>
            simp only [hparameters, bind, Except.bind, pure, Except.pure, Except.ok.injEq] at h
            rw [← h]
            exact Bool.eq_false_iff.mpr hname

namespace Registry

/-! ## Names -/

lemma mem_names_of_mem_overloads {r : Registry} {name : Text} {o : Overload}
    (ho : o ∈ r.overloads name) : name ∈ r.names := by
  obtain ⟨groups⟩ := r
  simp only [overloads, names, Grouping.keys] at ho ⊢
  induction groups with
  | nil => exact absurd ho List.not_mem_nil
  | cons group groups ih =>
      rw [Grouping.get] at ho
      split at ho
      · next hkey => simp [hkey]
      · exact List.mem_cons_of_mem _ (ih ho)

end Registry

/-! ## Declaring overloads -/

/-- The declaration of an overload that lacks nothing. -/
def Overload.declaration (o : Overload) : Declaration where
  name := some o.name
  description := o.description
  category := o.category
  parameters := o.parameters.map fun p => ⟨some p.name, some p.kind, p.description⟩
  predicate := some o.predicate
  examples := o.examples

lemma defineParameters_map {function : Text} {position : Nat} {ps : List Parameter}
    (hps : ∀ p ∈ ps, p.name ≠ []) :
    defineParameters function position (ps.map fun p => ⟨some p.name, some p.kind, p.description⟩)
      = .ok ps := by
  induction ps generalizing position with
  | nil => rfl
  | cons p ps ih =>
      have hrest := @ih (position + 1) fun q hq => hps q (List.mem_cons_of_mem _ hq)
      obtain ⟨_ | ⟨c, name⟩, kind, description⟩ := p
      · exact absurd rfl (hps ⟨[], kind, description⟩ List.mem_cons_self)
      · rw [List.map_cons, defineParameters, Option.getD_some, hrest]
        rfl

lemma Overload.define_declaration {o : Overload} (hname : o.name.isBlank = false)
    (hps : ∀ p ∈ o.parameters, p.name ≠ []) : o.declaration.define = .ok o := by
  have hparameters : defineParameters o.name 1 o.declaration.parameters = .ok o.parameters :=
    defineParameters_map hps
  have hblank : ¬ (o.declaration.name.getD []).isBlank = true := by
    rw [Overload.declaration, Option.getD_some, hname]
    exact Bool.false_ne_true
  rw [Declaration.define, if_neg hblank]
  simp only [Overload.declaration, Option.getD_some] at hparameters ⊢
  rw [hparameters]
  rfl

namespace Registry

/-- An overload is new to a registry that has no overload of its signature under its name. -/
def IsNew (r : Registry) (o : Overload) : Prop :=
  ∀ o' ∈ r.overloads o.name, o'.signature ≠ o.signature

lemma isNew_empty (o : Overload) : empty.IsNew o := by
  intro o' ho'
  exact absurd ho' List.not_mem_nil

/-- What is new to a registry with one more overload is new to the registry and to the overload. -/
lemma isNew_add_iff {r : Registry} {o o' : Overload} :
    IsNew ⟨Grouping.add o.name o r.functions⟩ o' ↔ r.IsNew o' ∧ o.signature ≠ o'.signature := by
  simp only [IsNew, overloads, Grouping.get_add]
  split
  · simp only [List.mem_append, List.mem_singleton, or_imp, forall_and, forall_eq]
  · next hname =>
      have hsignature : o.signature ≠ o'.signature := fun h => hname (congrArg Signature.name h)
      simp only [hsignature, ne_eq, not_false_eq_true, and_true]

lemma any_signature_iff {r : Registry} {o : Overload} :
    (r.overloads o.name).any (·.signature == o.signature) = true ↔ ¬ r.IsNew o := by
  simp [IsNew]

lemma register_of_isNew {r : Registry} {o : Overload} (h : r.IsNew o) :
    r.register o = .ok ⟨Grouping.add o.name o r.functions⟩ := by
  rw [register, if_neg fun hany => any_signature_iff.mp hany h]

lemma register_of_not_isNew {r : Registry} {o : Overload} (h : ¬ r.IsNew o) :
    r.register o = .error (.duplicateOverload o.signature) := by
  rw [register, if_pos (any_signature_iff.mpr h)]

/-- A declaration is registered when it lacks nothing and its overload is new. -/
lemma declare_eq_ok_iff {r r' : Registry} {d : Declaration} :
    r.declare d = .ok r' ↔
      ∃ o, d.define = .ok o ∧ r.IsNew o ∧ r' = ⟨Grouping.add o.name o r.functions⟩ := by
  rw [declare]
  cases d.define with
  | error e => simp [bind, Except.bind]
  | ok o =>
      simp only [bind, Except.bind, Except.ok.injEq, exists_eq_left']
      by_cases hnew : r.IsNew o
      · rw [register_of_isNew hnew, Except.ok.injEq, and_iff_right hnew]
        exact eq_comm
      · rw [register_of_not_isNew hnew]
        simp [hnew]

/-- Registering one declaration after the other. -/
lemma foldlM_declare_eq_ok_iff {ds : List Declaration} {r r' : Registry} :
    ds.foldlM declare r = .ok r' ↔
      ∃ os, List.Forall₂ (fun d o => d.define = .ok o) ds os ∧
        (os.map Overload.signature).Nodup ∧ (∀ o ∈ os, r.IsNew o) ∧
        r' = ⟨os.foldl (fun g o => Grouping.add o.name o g) r.functions⟩ := by
  -- on the declarations still to come; what they make must be new to what is registered by then
  induction ds generalizing r with
  | nil => simp [pure, Except.pure, eq_comm]
  | cons d ds ih =>
      simp only [Traversal.foldlM_cons_eq_ok_iff, declare_eq_ok_iff, ih,
        List.forall₂_cons_left_iff]
      constructor
      · rintro ⟨_, ⟨o, ho, hnew, rfl⟩, os, hos, hdistinct, hnews, rfl⟩
        refine ⟨o :: os, ⟨o, os, ho, hos, rfl⟩, ?_, ?_, rfl⟩
        · rw [List.map_cons, List.nodup_cons]
          refine ⟨fun hmem => ?_, hdistinct⟩
          obtain ⟨o', ho', hsignature⟩ := List.mem_map.mp hmem
          exact (isNew_add_iff.mp (hnews o' ho')).2 hsignature.symm
        · exact List.forall_mem_cons.mpr ⟨hnew, fun o' ho' => (isNew_add_iff.mp (hnews o' ho')).1⟩
      · rintro ⟨_, ⟨o, os, ho, hos, rfl⟩, hdistinct, hnews, rfl⟩
        rw [List.map_cons, List.nodup_cons] at hdistinct
        obtain ⟨hnew, hnews⟩ := List.forall_mem_cons.mp hnews
        refine ⟨_, ⟨o, ho, hnew, rfl⟩, os, hos, hdistinct.2, fun o' ho' => ?_, rfl⟩
        refine isNew_add_iff.mpr ⟨hnews o' ho', fun h => ?_⟩
        exact hdistinct.1 (h ▸ List.mem_map_of_mem ho')

/-- **A registry is built exactly when no declaration lacks anything and no two overloads have one
signature**; it then groups the overloads by their names. -/
theorem build_eq_ok_iff {ds : List Declaration} {r : Registry} :
    build ds = .ok r ↔
      ∃ os, List.Forall₂ (fun d o => d.define = .ok o) ds os ∧
        (os.map Overload.signature).Nodup ∧ r = ⟨Grouping.ofList (·.name) os⟩ := by
  simp only [build, foldlM_declare_eq_ok_iff, isNew_empty, implies_true, true_and]
  rfl

/-- **Overloads without defects can all be registered**, and are then grouped by their names. -/
theorem build_declarations {os : List Overload}
    (hdefined : ∀ o ∈ os, o.name.isBlank = false ∧ ∀ p ∈ o.parameters, p.name ≠ [])
    (hdistinct : (os.map Overload.signature).Nodup) :
    build (os.map Overload.declaration) = .ok ⟨Grouping.ofList (·.name) os⟩ := by
  refine build_eq_ok_iff.mpr ⟨os, ?_, hdistinct, rfl⟩
  rw [List.forall₂_map_left_iff, List.forall₂_same]
  exact fun o ho => Overload.define_declaration (hdefined o ho).1 (hdefined o ho).2

/-- The registry of the standard functions was built. -/
theorem build_standard : build (Standard.overloads.map Overload.declaration) = .ok standard :=
  build_declarations (by decide) (by decide)

/-! ## The overloads of one function -/

/-- A registry is unambiguous when no two overloads of a function take parameters of the same kinds. -/
def IsUnambiguous (r : Registry) : Prop :=
  ∀ name, ∀ o ∈ r.overloads name, ∀ o' ∈ r.overloads name,
    o.parameters.map Parameter.kind = o'.parameters.map Parameter.kind → o = o'

lemma overloads_ofList (os : List Overload) (name : Text) :
    overloads ⟨Grouping.ofList (·.name) os⟩ name = os.filter (·.name = name) :=
  Grouping.get_ofList Overload.name name os

lemma mem_overloads_ofList {os : List Overload} {name : Text} {o : Overload} :
    o ∈ overloads ⟨Grouping.ofList (·.name) os⟩ name ↔ o ∈ os ∧ o.name = name := by
  rw [overloads_ofList, List.mem_filter, decide_eq_true_eq]

/-- **Every registry that was built is unambiguous.** -/
theorem isUnambiguous_of_build {ds : List Declaration} {r : Registry} (h : build ds = .ok r) :
    r.IsUnambiguous := by
  obtain ⟨os, -, hdistinct, rfl⟩ := build_eq_ok_iff.mp h
  intro name o ho o' ho' hkinds
  obtain ⟨ho, hname⟩ := mem_overloads_ofList.mp ho
  obtain ⟨ho', hname'⟩ := mem_overloads_ofList.mp ho'
  refine List.inj_on_of_nodup_map hdistinct ho ho' ?_
  rw [Overload.signature, Overload.signature, hname, hname', hkinds]

/-- An element of a list without repetitions that alone passes a test is all that is left by it. -/
lemma filter_eq_singleton_of_unique {α : Type} {l : List α} {p : α → Bool} {a : α} (hnodup : l.Nodup)
    (ha : a ∈ l) (hpass : p a = true) (hunique : ∀ b ∈ l, p b = true → b = a) : l.filter p = [a] := by
  refine List.perm_singleton.mp
    ((List.perm_ext_iff_of_nodup (hnodup.filter p) (List.nodup_singleton a)).mpr fun b => ?_)
  rw [List.mem_filter, List.mem_singleton]
  constructor
  · rintro ⟨hb, hpass'⟩
    exact hunique b hb hpass'
  · rintro rfl
    exact ⟨ha, hpass⟩

/-- No overload of a function is registered twice. -/
lemma nodup_overloads_of_build {ds : List Declaration} {r : Registry} (h : build ds = .ok r)
    (name : Text) : (r.overloads name).Nodup := by
  obtain ⟨os, -, hdistinct, rfl⟩ := build_eq_ok_iff.mp h
  rw [overloads_ofList]
  exact hdistinct.of_map.filter _

/-- Every name of a registry that was built has an overload. -/
lemma overloads_ne_nil_of_mem_names {ds : List Declaration} {r : Registry} (h : build ds = .ok r)
    {name : Text} (hname : name ∈ r.names) : r.overloads name ≠ [] := by
  obtain ⟨os, -, -, rfl⟩ := build_eq_ok_iff.mp h
  obtain ⟨o, ho, hkey⟩ := (Grouping.mem_keys_ofList Overload.name os).mp hname
  exact List.ne_nil_of_mem (mem_overloads_ofList.mpr ⟨ho, hkey⟩)

/-- Every overload of a registry stands under its own name, which is not blank. -/
def IsFiled (r : Registry) : Prop :=
  ∀ name, ∀ o ∈ r.overloads name, o.name = name ∧ name.isBlank = false

/-- **Every registry that was built is filed.** -/
theorem isFiled_of_build {ds : List Declaration} {r : Registry} (h : build ds = .ok r) :
    r.IsFiled := by
  obtain ⟨os, hos, -, rfl⟩ := build_eq_ok_iff.mp h
  intro name o ho
  obtain ⟨ho, hname⟩ := mem_overloads_ofList.mp ho
  obtain ⟨d, -, hdefine⟩ := Traversal.exists_of_mem_right hos ho
  exact ⟨hname, hname ▸ Declaration.not_isBlank_of_define hdefine⟩

/-- What is registered from some declarations is registered from any that include them. -/
lemma mem_overloads_of_subset {ds ds' : List Declaration} {r r' : Registry} (hsub : ds ⊆ ds')
    (h : build ds = .ok r) (h' : build ds' = .ok r') {name : Text} {o : Overload}
    (ho : o ∈ r.overloads name) : o ∈ r'.overloads name := by
  obtain ⟨os, hos, -, rfl⟩ := build_eq_ok_iff.mp h
  obtain ⟨os', hos', -, rfl⟩ := build_eq_ok_iff.mp h'
  obtain ⟨ho, hname⟩ := mem_overloads_ofList.mp ho
  obtain ⟨d, hd, hdefine⟩ := Traversal.exists_of_mem_right hos ho
  obtain ⟨o', ho', hdefine'⟩ := Traversal.exists_of_mem_left hos' (hsub hd)
  obtain rfl := Except.ok.inj (hdefine.symm.trans hdefine')
  exact mem_overloads_ofList.mpr ⟨ho', hname⟩

/-- **Declarations make a registry in any order**, with the overloads of each function in another
order. -/
theorem exists_build_of_perm {ds ds' : List Declaration} {r : Registry} (hperm : ds.Perm ds')
    (h : build ds = .ok r) :
    ∃ r', build ds' = .ok r' ∧ ∀ name, (r.overloads name).Perm (r'.overloads name) := by
  obtain ⟨os, hos, hdistinct, rfl⟩ := build_eq_ok_iff.mp h
  obtain ⟨os', hos', hperm'⟩ := List.perm_comp_forall₂ hperm.symm hos
  refine ⟨⟨Grouping.ofList (·.name) os'⟩, build_eq_ok_iff.mpr ⟨os', hos', ?_, rfl⟩, fun name => ?_⟩
  · exact (hperm'.map Overload.signature).nodup_iff.mpr hdistinct
  · rw [overloads_ofList, overloads_ofList]
    exact hperm'.symm.filter _

end Registry

end BranchPolicy
