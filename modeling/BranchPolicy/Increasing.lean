/-!
# Increasing lists

The distinct members of a list, each once and in increasing order.

* `insertIncreasing` — puts a member into its place.
* `increasing` — the distinct members of a list; `mem_increasing` says that none is lost,
  `pairwise_increasing` that each stands before the greater ones, and `increasing_eq` that no other
  list is like this.
-/

namespace BranchPolicy

variable {α : Type} [LT α] [DecidableLT α] [DecidableEq α]

/-- Puts a member into its place in an increasing list, unless it is there. -/
def insertIncreasing (a : α) : List α → List α
  | [] => [a]
  | b :: bs =>
    if a < b then a :: b :: bs
    else if a = b then b :: bs
    else b :: insertIncreasing a bs

/-- The distinct members of a list in increasing order. -/
def increasing (as : List α) : List α :=
  as.foldr insertIncreasing []

/-! ## The members stay -/

theorem mem_insertIncreasing {a x : α} {bs : List α} :
    x ∈ insertIncreasing a bs ↔ x = a ∨ x ∈ bs := by
  induction bs with
  | nil => simp [insertIncreasing]
  | cons b bs ih =>
    unfold insertIncreasing
    split
    · exact List.mem_cons
    · split
      · next h => simp [h]
      · simp only [List.mem_cons, ih]
        exact ⟨fun h => h.elim (.inr ∘ .inl) (·.imp_right .inr),
          fun h => h.elim (.inr ∘ .inl) (·.imp_right .inr)⟩

/-- **A list and its increasing form have the same members.** -/
theorem mem_increasing {x : α} {as : List α} : x ∈ increasing as ↔ x ∈ as := by
  induction as with
  | nil => simp [increasing]
  | cons a as ih =>
    rw [increasing, List.foldr_cons, mem_insertIncreasing, ← increasing, ih, List.mem_cons]

/-! ## The members stand in order -/

section Order

variable [Trans ((· < ·) : α → α → Prop) ((· < ·) : α → α → Prop) ((· < ·) : α → α → Prop)]
  [Std.Trichotomous ((· < ·) : α → α → Prop)]

theorem pairwise_insertIncreasing {a : α} {bs : List α} (h : bs.Pairwise (· < ·)) :
    (insertIncreasing a bs).Pairwise (· < ·) := by
  induction bs with
  | nil => exact List.pairwise_singleton _ a
  | cons b bs ih =>
    obtain ⟨hb, hbs⟩ := List.pairwise_cons.mp h
    unfold insertIncreasing
    split
    · next hlt =>
      refine List.pairwise_cons.mpr ⟨List.forall_mem_cons.mpr ⟨hlt, fun x hx => ?_⟩, h⟩
      exact Trans.trans hlt (hb x hx)
    · split
      · exact h
      · next hle hne =>
        refine List.pairwise_cons.mpr ⟨fun x hx => ?_, ih hbs⟩
        rcases mem_insertIncreasing.mp hx with rfl | hx
        · exact Decidable.byContradiction fun hge =>
            hne (Std.Trichotomous.trichotomous (r := (· < ·)) _ _ hle hge)
        · exact hb x hx

/-- **The distinct members of a list are put into strictly increasing order.** -/
theorem pairwise_increasing (as : List α) : (increasing as).Pairwise (· < ·) := by
  induction as with
  | nil => exact List.Pairwise.nil
  | cons a as ih => exact pairwise_insertIncreasing ih

/-- **A strictly increasing list is the increasing form of every list with the same members.** -/
theorem increasing_eq [Std.Asymm ((· < ·) : α → α → Prop)] {as bs : List α}
    (hb : bs.Pairwise (· < ·)) (hmem : ∀ x, x ∈ bs ↔ x ∈ as) : increasing as = bs := by
  have hasymm : ∀ x y : α, x < y → ¬ y < x := Std.Asymm.asymm
  have hnodup : ∀ {l : List α}, l.Pairwise (· < ·) → l.Nodup := by
    intro l hl
    refine hl.imp fun hlt heq => ?_
    exact hasymm _ _ hlt (heq ▸ heq ▸ hlt)
  have hsorted := pairwise_increasing as
  have hperm : (increasing as).Perm bs :=
    (List.perm_ext_iff_of_nodup (hnodup hsorted) (hnodup hb)).mpr fun x =>
      mem_increasing.trans (hmem x).symm
  exact hperm.eq_of_pairwise (fun x y _ _ hlt hgt => absurd hgt (hasymm x y hlt)) hsorted hb

end Order

end BranchPolicy
