import BranchPolicy.Proofs.Function.Defect
import BranchPolicy.Proofs.Function.Grouping
import Mathlib.Data.Option.Basic

/-!
# Which tables make a registry

A table of declarations makes a registry when no declaration has a defect and no two repeat each other.  Any
other table is rejected for the first declaration that has a defect or repeats an earlier one.  The registry
that is made holds what was declared and nothing else.

* `Declaration.Repeats` — two declarations have one name and the same kinds of parameters.
* `IsTable` — the tables that make a registry; `Registry.exists_build_iff` says that they do.
* `Declaration.IsRejected` — what a declaration that follows others is rejected for.
* `Registry.declare_eq_error_iff` — registering one more declaration fails with it.
* **`Registry.build_eq_error_iff`** — building fails with the rejection of the first declaration that has one.
* `Registry.Holds` — what a registry holds, in terms of what was declared.
* **`Registry.build_exact`** — when building fails and with what, and what it makes otherwise.
-/

namespace BranchPolicy

/-! ## Declarations that repeat each other -/

/-- Two declarations with one name and the same kinds of parameters. -/
def Declaration.Repeats (d d' : Declaration) : Prop :=
  d.name = d'.name ∧ d.parameters.map (·.kind) = d'.parameters.map (·.kind)

/-- A declaration with the name and the kinds of a signature. -/
def Declaration.HasSignature (d : Declaration) (s : Signature) : Prop :=
  d.name = some s.name ∧ d.parameters.map (·.kind) = s.kinds.map some

/-- **The tables without defects**: no declaration lacks anything or repeats another. -/
def IsTable (ds : List Declaration) : Prop :=
  (∀ d ∈ ds, ¬ d.IsDefective) ∧ ds.Pairwise fun d d' => ¬ d.Repeats d'

/-- **What a declaration is rejected for** when it follows others: its own defect, or else that it repeats one
of the others. -/
inductive Declaration.IsRejected (earlier : List Declaration) (d : Declaration) : RegistrationError → Prop
  | defective {e : RegistrationError} (hdefect : d.HasDefect e) : IsRejected earlier d e
  | repeated {d' : Declaration} {s : Signature} (hsound : ¬ d.IsDefective) (hearlier : d' ∈ earlier)
      (hrepeats : d'.Repeats d) (hsignature : d.HasSignature s) :
      IsRejected earlier d (.duplicateOverload s)

section Repeats

variable {o o' : Overload} {s : Signature}

lemma Overload.map_kind_declaration (o : Overload) :
    o.declaration.parameters.map (·.kind) = o.signature.kinds.map some := by
  simp [Overload.declaration, Overload.signature]

lemma Overload.repeats_declaration_iff :
    o.declaration.Repeats o'.declaration ↔ o.signature = o'.signature := by
  have hinjective := List.map_injective_iff.mpr (Option.some_injective Kind)
  rw [Declaration.Repeats, o.map_kind_declaration, o'.map_kind_declaration, hinjective.eq_iff]
  simp [Overload.declaration, Overload.signature]

lemma Overload.hasSignature_declaration_iff : o.declaration.HasSignature s ↔ o.signature = s := by
  have hinjective := List.map_injective_iff.mpr (Option.some_injective Kind)
  obtain ⟨name, kinds⟩ := s
  rw [Declaration.HasSignature, o.map_kind_declaration, hinjective.eq_iff]
  simp [Overload.declaration, Overload.signature]

end Repeats

namespace Registry

/-! ## Tables that make a registry -/

section Build

variable {ds : List Declaration} {os : List Overload} {o : Overload} {d : Declaration}
  {e : RegistrationError}

/-- The overloads of some declarations, each just what was declared. -/
lemma map_declaration_of_forall₂ (h : List.Forall₂ (fun d o => Declaration.define d = .ok o) ds os) :
    os.map Overload.declaration = ds := by
  induction h with
  | nil => rfl
  | cons hdefine _ ih => rw [List.map_cons, Declaration.declaration_of_define hdefine, ih]

lemma pairwise_not_repeats_iff :
    ((os.map Overload.declaration).Pairwise fun d d' => ¬ d.Repeats d') ↔
      (os.map Overload.signature).Nodup := by
  simp only [List.Nodup, List.pairwise_map, Overload.repeats_declaration_iff, ne_eq]

/-- **A table makes a registry when it is without defects.** -/
theorem exists_build_iff : (∃ r, build ds = .ok r) ↔ IsTable ds := by
  simp only [build_eq_ok_iff]
  constructor
  · rintro ⟨r, os, hos, hdistinct, rfl⟩
    obtain rfl := map_declaration_of_forall₂ hos
    refine ⟨fun d hd => Declaration.exists_define_iff.mp ?_, pairwise_not_repeats_iff.mpr hdistinct⟩
    obtain ⟨o, -, ho⟩ := Traversal.exists_of_mem_left hos hd
    exact ⟨o, ho⟩
  · rintro ⟨hsound, hdistinct⟩
    obtain ⟨os, hos⟩ := Traversal.exists_mapM_eq_ok fun d hd => Declaration.exists_define_iff.mpr (hsound d hd)
    have hos := Traversal.mapM_eq_ok_iff.mp hos
    obtain rfl := map_declaration_of_forall₂ hos
    exact ⟨_, os, hos, pairwise_not_repeats_iff.mp hdistinct, rfl⟩

/-! ## Tables that are rejected -/

/-- An overload is new to a registry when none of those registered has its signature. -/
lemma isNew_ofList_iff :
    IsNew ⟨Grouping.ofList (·.name) os⟩ o ↔ ∀ o' ∈ os, o'.signature ≠ o.signature := by
  simp only [IsNew, mem_overloads_ofList]
  constructor
  · intro hnew o' ho' hsignature
    exact hnew o' ⟨ho', congrArg Signature.name hsignature⟩ hsignature
  · rintro hnew o' ⟨ho', -⟩
    exact hnew o' ho'

lemma declare_eq_error_iff {r : Registry} :
    r.declare d = .error e ↔
      d.define = .error e ∨
        ∃ o, d.define = .ok o ∧ ¬ r.IsNew o ∧ e = .duplicateOverload o.signature := by
  rw [declare]
  cases d.define with
  | error e' => simp [bind, Except.bind]
  | ok o =>
      simp only [bind, Except.bind, reduceCtorEq, false_or, Except.ok.injEq, exists_eq_left']
      by_cases hnew : r.IsNew o
      · rw [register_of_isNew hnew]
        simp [hnew]
      · rw [register_of_not_isNew hnew, Except.error.injEq, and_iff_right hnew]
        exact eq_comm

/-- Registering one more declaration fails with what it is rejected for. -/
lemma declare_eq_error_iff_isRejected {r : Registry} (h : build ds = .ok r) :
    r.declare d = .error e ↔ d.IsRejected ds e := by
  obtain ⟨os, hos, -, rfl⟩ := build_eq_ok_iff.mp h
  obtain rfl := map_declaration_of_forall₂ hos
  rw [declare_eq_error_iff, Declaration.define_eq_error_iff]
  constructor
  · rintro (hdefect | ⟨o, ho, hold, rfl⟩)
    · exact .defective hdefect
    · obtain rfl := Declaration.declaration_of_define ho
      rw [isNew_ofList_iff] at hold
      push Not at hold
      obtain ⟨o', ho', hsignature⟩ := hold
      exact .repeated (Declaration.exists_define_iff.mp ⟨o, ho⟩) (List.mem_map_of_mem ho')
        (Overload.repeats_declaration_iff.mpr hsignature) (Overload.hasSignature_declaration_iff.mpr rfl)
  · rintro (hdefect | ⟨hsound, hearlier, hrepeats, hsignature⟩)
    · exact Or.inl hdefect
    · obtain ⟨o, ho⟩ := Declaration.exists_define_iff.mpr hsound
      obtain rfl := Declaration.declaration_of_define ho
      obtain ⟨o', ho', rfl⟩ := List.mem_map.mp hearlier
      obtain rfl := Overload.hasSignature_declaration_iff.mp hsignature
      refine Or.inr ⟨o, ho, fun hnew => ?_, rfl⟩
      exact isNew_ofList_iff.mp hnew o' ho' (Overload.repeats_declaration_iff.mp hrepeats)

/-- **Building fails with the rejection of the first declaration that has one.** -/
theorem build_eq_error_iff :
    build ds = .error e ↔
      ∃ before d after, ds = before ++ d :: after ∧ IsTable before ∧ d.IsRejected before e := by
  rw [build, Traversal.foldlM_eq_error_iff]
  constructor
  · rintro ⟨before, d, after, r, rfl, hr, hfail⟩
    exact ⟨before, d, after, rfl, exists_build_iff.mp ⟨r, hr⟩,
      (declare_eq_error_iff_isRejected hr).mp hfail⟩
  · rintro ⟨before, d, after, rfl, hbefore, hrejected⟩
    obtain ⟨r, hr⟩ := exists_build_iff.mpr hbefore
    exact ⟨before, d, after, r, rfl, hr, (declare_eq_error_iff_isRejected hr).mpr hrejected⟩

/-- A table is rejected when a declaration has a defect or two repeat each other. -/
lemma exists_build_eq_error_iff :
    (∃ e, build ds = .error e) ↔
      (∃ d ∈ ds, d.IsDefective) ∨ ∃ d d', [d, d'].Sublist ds ∧ d.Repeats d' := by
  have hfails : (∃ e, build ds = .error e) ↔ ¬ ∃ r, build ds = .ok r := by
    cases build ds <;> simp
  rw [hfails, exists_build_iff, IsTable, List.pairwise_iff_forall_sublist, not_and_or]
  push Not
  rfl

end Build

/-! ## What a registry holds -/

/-- **A registry holds what was declared**: its names are the distinct names, in order of first appearance;
each function has the declarations of its name, in order; all of them together, function by function, are the
declarations in another order; and the number of functions and the membership go by the names. -/
structure Holds (r : Registry) (ds : List Declaration) : Prop where
  names : r.names = (ds.filterMap (·.name)).eraseDups
  overloads : ∀ name, (r.overloads name).map Overload.declaration = ds.filter (·.name = some name)
  all : r.all = r.names.flatMap r.overloads
  perm : (r.all.map Overload.declaration).Perm ds
  size : r.size = r.names.length
  contains : ∀ name, r.contains name = true ↔ name ∈ r.names

lemma holds_ofList (os : List Overload) :
    Holds ⟨Grouping.ofList (·.name) os⟩ (os.map Overload.declaration) := by
  have hname : ∀ o : Overload, o.declaration.name = some o.name := fun _ => rfl
  refine ⟨?names, fun name => ?overloads, ?all, ?perm, ?size, fun name => List.contains_iff_mem⟩
  case names =>
    rw [names, Grouping.keys_ofList, List.filterMap_map, ← List.filterMap_eq_map]
    rfl
  case overloads =>
    rw [overloads_ofList, List.filter_map]
    simp [Function.comp_def, hname]
  case all => exact Grouping.items_eq_flatMap_get (Grouping.nodup_keys_ofList _ os)
  case perm => exact (Grouping.perm_items_ofList _ os).map Overload.declaration
  case size => exact (List.length_map _).symm

/-- **Building a registry is exact and loses nothing.**  For every table of declarations: building fails when
some declaration has a defect or two of them repeat each other; the failure is the rejection of the first
declaration that has a defect or repeats an earlier one, the table being without defects up to there; and the
registry that is built otherwise holds what was declared. -/
theorem build_exact (ds : List Declaration) :
    ((∃ e, build ds = .error e) ↔
      (∃ d ∈ ds, d.IsDefective) ∨ ∃ d d', [d, d'].Sublist ds ∧ d.Repeats d') ∧
    (∀ e, build ds = .error e ↔
      ∃ before d after, ds = before ++ d :: after ∧
        ((∀ x ∈ before, ¬ x.IsDefective) ∧ before.Pairwise fun x y => ¬ x.Repeats y) ∧
        d.IsRejected before e) ∧
    ∀ r, build ds = .ok r → r.Holds ds := by
  refine ⟨exists_build_eq_error_iff, fun e => build_eq_error_iff, fun r hr => ?holds⟩
  case holds =>
    obtain ⟨os, hos, -, rfl⟩ := build_eq_ok_iff.mp hr
    rw [← map_declaration_of_forall₂ hos]
    exact holds_ofList os

/-- A declaration that lacks nothing, with parameters of the given kinds. -/
def plainDeclaration (name : String) (kinds : List Kind) : Declaration where
  name := some name.toList
  parameters := kinds.map fun kind => { name := some ['x'], kind := some kind }
  predicate := some fun _ _ => .ok true

/-- The declarations of two functions, one of which has an overload before and one after the other. -/
def interleaved : List Declaration :=
  [plainDeclaration "f" [.string], plainDeclaration "g" [], plainDeclaration "f" [.number]]

/-- The two overloads come together in the registry.  When `g` is declared again the table is rejected for
that, whatever defects follow. -/
theorem build_exact_interleaved :
    (∃ r, build interleaved = .ok r ∧ r.names = ["f".toList, "g".toList] ∧
      r.all.map (·.signature) = [⟨"f".toList, [.string]⟩, ⟨"f".toList, [.number]⟩, ⟨"g".toList, []⟩] ∧
      (r.all.map Overload.declaration).Perm interleaved) ∧
    build (interleaved ++ [plainDeclaration "g" [], plainDeclaration "" []])
      = .error (.duplicateOverload ⟨"g".toList, []⟩) := by
  obtain ⟨r, hr, hall⟩ : ∃ r, build interleaved = .ok r ∧ r.all.map (·.signature)
      = [⟨"f".toList, [.string]⟩, ⟨"f".toList, [.number]⟩, ⟨"g".toList, []⟩] := ⟨_, rfl, rfl⟩
  obtain ⟨-, -, hholds⟩ := build_exact interleaved
  obtain ⟨-, hfails, -⟩ := build_exact (interleaved ++ [plainDeclaration "g" [], plainDeclaration "" []])
  have hbefore : IsTable interleaved := exists_build_iff.mp ⟨r, hr⟩
  have hg : plainDeclaration "g" [] ∈ interleaved := .tail _ (.head _)
  refine ⟨⟨r, hr, (hholds r hr).names, hall, (hholds r hr).perm⟩, ?_⟩
  refine (hfails _).mpr ⟨interleaved, plainDeclaration "g" [], _, rfl, hbefore, ?_⟩
  exact .repeated (hbefore.1 _ hg) hg ⟨rfl, rfl⟩ ⟨rfl, rfl⟩

end Registry

end BranchPolicy
