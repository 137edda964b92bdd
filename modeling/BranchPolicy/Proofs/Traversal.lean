import Mathlib.Data.List.Forall2
import Mathlib.Tactic.Lemma

/-!
# Traversals that stop at the first failure

Resolving and dispatching walk over lists of lists with a function that may fail.  What such a walk
returns is settled here once, for any function.

* `mapM_eq_ok_iff` — it succeeds exactly when every element does, with the answers in order.
* `mapM_eq_error_iff` — it fails with the failure of the first element that has one.
* `mapM_mapM_eq_error_iff` — walking over lists of lists fails as walking over their
  concatenation does, so that the grouping is immaterial to the first failure.
* `forall_mem_iff_of_forall₂`, `exists_mem_iff_of_forall₂` — a property that an element shares with its
  answer is one of all elements, or of some, exactly when it is one of all answers, or of some.
* `foldlM_cons_eq_ok_iff` — a fold succeeds when its first step does and then the rest.
* `foldlM_eq_error_iff` — it fails with the failure of the first step that has one.
-/

namespace BranchPolicy.Traversal

variable {α β γ ε : Type} {f : α → Except ε β}

/-- **A walk succeeds exactly when every element does.** -/
theorem mapM_eq_ok_iff {xs : List α} {ys : List β} :
    xs.mapM f = .ok ys ↔ List.Forall₂ (fun x y => f x = .ok y) xs ys := by
  induction xs generalizing ys with
  | nil =>
      rw [List.mapM_nil, List.forall₂_nil_left_iff]
      exact ⟨fun h => (Except.ok.inj h).symm, fun h => h ▸ rfl⟩
  | cons x xs ih =>
      rw [List.mapM_cons, List.forall₂_cons_left_iff]
      cases hx : f x with
      | error e => simp [bind, Except.bind]
      | ok y =>
          cases hxs : xs.mapM f with
          | error e =>
              have hnone : ∀ zs, ¬ List.Forall₂ (fun x y => f x = .ok y) xs zs := by
                intro zs hzs
                rw [← ih, hxs] at hzs
                exact absurd hzs (by simp)
              simp [bind, Except.bind, hnone]
          | ok zs =>
              have hsome : ∀ us, List.Forall₂ (fun x y => f x = .ok y) xs us ↔ us = zs := by
                intro us
                rw [← ih, hxs]
                exact ⟨fun h => (Except.ok.inj h).symm, fun h => h ▸ rfl⟩
              simp only [bind, Except.bind, pure, Except.pure, Except.ok.injEq, hsome]
              constructor
              · rintro rfl
                exact ⟨y, zs, rfl, rfl, rfl⟩
              · rintro ⟨_, _, rfl, rfl, rfl⟩
                rfl

/-- **A walk fails with the failure of the first element that has one.** -/
theorem mapM_eq_error_iff {xs : List α} {e : ε} :
    xs.mapM f = .error e ↔
      ∃ before x after, xs = before ++ x :: after ∧
        (∀ earlier ∈ before, ∃ y, f earlier = .ok y) ∧ f x = .error e := by
  induction xs with
  | nil =>
      rw [List.mapM_nil]
      constructor
      · intro h
        exact absurd h (by simp [pure, Except.pure])
      · rintro ⟨before, x, after, h, -, -⟩
        exact absurd h (by simp)
  | cons x xs ih =>
      rw [List.mapM_cons]
      cases hx : f x with
      | error e' =>
          simp only [bind, Except.bind, Except.error.injEq]
          constructor
          · rintro rfl
            exact ⟨[], x, xs, rfl, by simp, hx⟩
          · rintro ⟨_ | ⟨z, before⟩, x', after, h, hbefore, hfail⟩
            · obtain ⟨rfl, -⟩ := List.cons.inj h
              exact Except.error.inj (hx.symm.trans hfail)
            · obtain ⟨rfl, -⟩ := List.cons.inj h
              obtain ⟨y, hy⟩ := hbefore x List.mem_cons_self
              exact absurd (hx.symm.trans hy) (by simp)
      | ok y =>
          have hrest : (do let r ← xs.mapM f; pure (y :: r) : Except ε (List β)) = .error e ↔
              xs.mapM f = .error e := by
            cases xs.mapM f <;> simp [bind, Except.bind, pure, Except.pure]
          refine Iff.trans hrest (ih.trans ?_)
          constructor
          · rintro ⟨before, x', after, rfl, hbefore, hfail⟩
            refine ⟨x :: before, x', after, rfl, ?_, hfail⟩
            intro earlier hmem
            rcases List.mem_cons.mp hmem with rfl | hmem
            · exact ⟨y, hx⟩
            · exact hbefore earlier hmem
          · rintro ⟨_ | ⟨z, before⟩, x', after, h, hbefore, hfail⟩
            · obtain ⟨rfl, -⟩ := List.cons.inj h
              exact absurd (hx.symm.trans hfail) (by simp)
            · obtain ⟨rfl, rfl⟩ := List.cons.inj h
              exact ⟨before, x', after, rfl,
                fun earlier hmem => hbefore earlier (List.mem_cons_of_mem _ hmem), hfail⟩

lemma exists_mapM_eq_ok {xs : List α} (h : ∀ x ∈ xs, ∃ y, f x = .ok y) :
    ∃ ys, xs.mapM f = .ok ys := by
  cases hxs : xs.mapM f with
  | ok ys => exact ⟨ys, rfl⟩
  | error e =>
      obtain ⟨before, x, after, rfl, -, hfail⟩ := mapM_eq_error_iff.mp hxs
      obtain ⟨y, hy⟩ := h x (by simp)
      exact absurd (hfail.symm.trans hy) (by simp)

lemma exists_of_mem_left {R : α → β → Prop} {xs : List α} {ys : List β}
    (h : List.Forall₂ R xs ys) {x : α} (hx : x ∈ xs) : ∃ y ∈ ys, R x y := by
  induction h with
  | nil => exact absurd hx List.not_mem_nil
  | @cons x' y xs ys hxy hrest ih =>
      rcases List.mem_cons.mp hx with rfl | hx
      · exact ⟨y, List.mem_cons_self, hxy⟩
      · obtain ⟨y', hy', hxy'⟩ := ih hx
        exact ⟨y', List.mem_cons_of_mem _ hy', hxy'⟩

lemma exists_of_mem_right {R : α → β → Prop} {xs : List α} {ys : List β}
    (h : List.Forall₂ R xs ys) {y : β} (hy : y ∈ ys) : ∃ x ∈ xs, R x y :=
  exists_of_mem_left h.flip hy

/-- All elements of a list have a property exactly when all related elements have the related one. -/
lemma forall_mem_iff_of_forall₂ {R : α → β → Prop} {p : α → Prop} {q : β → Prop} {xs : List α}
    {ys : List β} (h : List.Forall₂ R xs ys) (hiff : ∀ x y, R x y → (p x ↔ q y)) :
    (∀ x ∈ xs, p x) ↔ ∀ y ∈ ys, q y := by
  induction h with
  | nil => simp
  | cons hxy _ ih => rw [List.forall_mem_cons, List.forall_mem_cons, hiff _ _ hxy, ih]

/-- Some element of a list has a property exactly when some related element has the related one. -/
lemma exists_mem_iff_of_forall₂ {R : α → β → Prop} {p : α → Prop} {q : β → Prop} {xs : List α}
    {ys : List β} (h : List.Forall₂ R xs ys) (hiff : ∀ x y, R x y → (p x ↔ q y)) :
    (∃ x ∈ xs, p x) ↔ ∃ y ∈ ys, q y := by
  induction h with
  | nil => simp
  | cons hxy _ ih => rw [List.exists_mem_cons_iff, List.exists_mem_cons_iff, hiff _ _ hxy, ih]

/-- Related lists stand in the same relation to a third list, when related elements do. -/
lemma forall₂_iff_of_forall₂ {R : α → β → Prop} {S : β → γ → Prop} {T : α → γ → Prop}
    {xs : List α} {ys : List β} {zs : List γ} (h : List.Forall₂ R xs ys)
    (hiff : ∀ x ∈ xs, ∀ y, R x y → ∀ z, S y z ↔ T x z) :
    List.Forall₂ S ys zs ↔ List.Forall₂ T xs zs := by
  induction h generalizing zs with
  | nil => simp
  | cons hxy hrest ih =>
      have ih' : ∀ zs, List.Forall₂ S _ zs ↔ List.Forall₂ T _ zs :=
        fun _ => ih fun x hx => hiff x (List.mem_cons_of_mem _ hx)
      simp only [List.forall₂_cons_left_iff, ih', hiff _ List.mem_cons_self _ hxy]

/-- **Walking over lists of lists fails as walking over their concatenation does.** -/
theorem mapM_mapM_eq_error_iff {children : γ → List α} {xs : List γ} {e : ε} :
    xs.mapM (fun x => (children x).mapM f) = .error e ↔
      (xs.flatMap children).mapM f = .error e := by
  induction xs with
  | nil => simp [pure, Except.pure]
  | cons x xs ih =>
      rw [List.mapM_cons, List.flatMap_cons, List.mapM_append]
      cases (children x).mapM f with
      | error e' => simp [bind, Except.bind]
      | ok ys =>
          revert ih
          cases xs.mapM (fun x => (children x).mapM f) <;>
            cases (xs.flatMap children).mapM f <;>
              simp [bind, Except.bind, pure, Except.pure]

lemma foldlM_cons_eq_ok_iff {σ : Type} {step : σ → α → Except ε σ} {x : α} {xs : List α}
    {s s' : σ} :
    (x :: xs).foldlM step s = .ok s' ↔ ∃ s₁, step s x = .ok s₁ ∧ xs.foldlM step s₁ = .ok s' := by
  rw [List.foldlM_cons]
  cases step s x <;> simp [bind, Except.bind]

/-- **A fold fails with the failure of the first step that has one**, in the state that the steps before
it have led to. -/
theorem foldlM_eq_error_iff {σ : Type} {step : σ → α → Except ε σ} {xs : List α} {s : σ} {e : ε} :
    xs.foldlM step s = .error e ↔
      ∃ before x after s', xs = before ++ x :: after ∧ before.foldlM step s = .ok s' ∧
        step s' x = .error e := by
  induction xs generalizing s with
  | nil =>
      constructor
      · intro h
        exact absurd h (by simp [pure, Except.pure])
      · rintro ⟨before, x, after, s', h, -⟩
        exact absurd h (by simp)
  | cons x xs ih =>
      rw [List.foldlM_cons]
      cases hx : step s x with
      | error e' =>
          simp only [bind, Except.bind, Except.error.injEq]
          constructor
          · rintro rfl
            exact ⟨[], x, xs, s, rfl, rfl, hx⟩
          · rintro ⟨_ | ⟨y, before⟩, x', after, s', h, hbefore, hfail⟩
            · obtain ⟨rfl, -⟩ := List.cons.inj h
              obtain rfl : s = s' := Except.ok.inj hbefore
              exact Except.error.inj (hx.symm.trans hfail)
            · obtain ⟨rfl, -⟩ := List.cons.inj h
              obtain ⟨s₁, hs₁, -⟩ := foldlM_cons_eq_ok_iff.mp hbefore
              exact absurd (hx.symm.trans hs₁) (by simp)
      | ok s₁ =>
          refine Iff.trans ih ?_
          constructor
          · rintro ⟨before, x', after, s', rfl, hbefore, hfail⟩
            exact ⟨x :: before, x', after, s', rfl, foldlM_cons_eq_ok_iff.mpr ⟨s₁, hx, hbefore⟩, hfail⟩
          · rintro ⟨_ | ⟨y, before⟩, x', after, s', h, hbefore, hfail⟩
            · obtain ⟨rfl, -⟩ := List.cons.inj h
              obtain rfl : s = s' := Except.ok.inj hbefore
              exact absurd (hx.symm.trans hfail) (by simp)
            · obtain ⟨rfl, rfl⟩ := List.cons.inj h
              obtain ⟨s₂, hs₂, hbefore⟩ := foldlM_cons_eq_ok_iff.mp hbefore
              obtain rfl := Except.ok.inj (hx.symm.trans hs₂)
              exact ⟨before, x', after, s', rfl, hbefore, hfail⟩

end BranchPolicy.Traversal
