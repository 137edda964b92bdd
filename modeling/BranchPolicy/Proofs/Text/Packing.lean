import BranchPolicy.Proofs.Text.Search
import Mathlib.Data.Finset.Max
import Mathlib.Order.Interval.Finset.Nat

/-!
# Counting from the left is optimal

Occurrences of a text can overlap, so that one has to choose among them if no two are to share a character.
A count from the left takes each occurrence that it can, and no other choice has more: whatever occurrence
comes first in a choice, the one taken from the left ends no later, and leaves room for all the others.

* `IsPacking` — a choice of occurrences of which no two share a character.
* `packedFrom` — how many occurrences the choices from a place on can have.
* `isGreatest_packedFrom_end`, `packedFrom_of_not_occursAt`, `isGreatest_packedFrom_of_occursAt` — what one
  step of the count does: at the end, at a place without an occurrence and at one with an occurrence.
* **`isGreatest_countDisjoint`** — the count from the left is the greatest number of disjoint occurrences.
-/

namespace BranchPolicy.Text

/-- **A choice of disjoint occurrences**: `starts` are places at which `needle` occurs, and no character of
the text belongs to two of the occurrences. -/
structure IsPacking (needle t : Text) (starts : Finset Nat) : Prop where
  occurs : ∀ i ∈ starts, OccursAt needle t i
  disjoint : (starts : Set Nat).PairwiseDisjoint fun i => Finset.Ico i (i + needle.length)

/-- The numbers of disjoint occurrences that start at a place or later. -/
def packedFrom (needle t : Text) (place : Nat) : Set Nat :=
  {k | ∃ starts, IsPacking needle t starts ∧ (∀ i ∈ starts, place ≤ i) ∧ starts.card = k}

section Packing

variable {needle t : Text} {starts : Finset Nat} {place i j : Nat}

/-! ## Disjoint occurrences -/

lemma isPacking_empty : IsPacking needle t ∅ :=
  ⟨fun i hi => absurd hi (Finset.notMem_empty i), by simp⟩

/-- Of two disjoint occurrences the later one starts where the earlier one has ended. -/
lemma IsPacking.add_length_le (h : IsPacking needle t starts) (hne : needle ≠ []) (hi : i ∈ starts)
    (hj : j ∈ starts) (hlt : i < j) : i + needle.length ≤ j := by
  have hpos : 0 < needle.length := List.length_pos_iff.mpr hne
  have hdisjoint := h.disjoint hi hj hlt.ne
  by_contra hshort
  have hin : j ∈ Finset.Ico i (i + needle.length) :=
    Finset.mem_Ico.mpr ⟨hlt.le, Nat.lt_of_not_le hshort⟩
  have hown : j ∈ Finset.Ico j (j + needle.length) :=
    Finset.mem_Ico.mpr ⟨le_rfl, Nat.lt_add_of_pos_right hpos⟩
  exact Finset.disjoint_left.mp hdisjoint hin hown

/-- An occurrence before all others can be added. -/
lemma IsPacking.insert (h : IsPacking needle t starts) (hi : OccursAt needle t i)
    (hafter : ∀ j ∈ starts, i + needle.length ≤ j) : IsPacking needle t (Insert.insert i starts) := by
  constructor
  · exact fun j hj => (Finset.mem_insert.mp hj).elim (fun heq => heq ▸ hi) (h.occurs j)
  · rw [Finset.coe_insert, Set.pairwiseDisjoint_insert]
    refine ⟨h.disjoint, fun j hj _ => Finset.disjoint_left.mpr fun x hx hx' => ?_⟩
    have hend := hafter j hj
    rw [Finset.mem_Ico] at hx hx'
    omega

/-- Any occurrences can be left out. -/
lemma IsPacking.subset {fewer : Finset Nat} (h : IsPacking needle t starts) (hsub : fewer ⊆ starts) :
    IsPacking needle t fewer :=
  ⟨fun i hi => h.occurs i (hsub hi), h.disjoint.subset (Finset.coe_subset.mpr hsub)⟩

/-! ## One step of the count -/

lemma isGreatest_packedFrom_end (hne : needle ≠ []) (hend : t.length ≤ place) :
    IsGreatest (packedFrom needle t place) 0 := by
  have hpos : 0 < needle.length := List.length_pos_iff.mpr hne
  refine ⟨⟨∅, isPacking_empty, by simp, rfl⟩, ?_⟩
  rintro k ⟨starts, hpacking, hplace, rfl⟩
  rw [Nat.le_zero, Finset.card_eq_zero, Finset.eq_empty_iff_forall_notMem]
  intro i hi
  have hfits := (hpacking.occurs i hi).add_length_le
  have hfrom := hplace i hi
  omega

/-- A place without an occurrence can be passed. -/
lemma packedFrom_of_not_occursAt (hnot : ¬ OccursAt needle t place) :
    packedFrom needle t place = packedFrom needle t (place + 1) := by
  ext k
  constructor
  · rintro ⟨starts, hpacking, hplace, rfl⟩
    refine ⟨starts, hpacking, fun i hi => ?_, rfl⟩
    have hother : place ≠ i := fun heq => hnot (heq ▸ hpacking.occurs i hi)
    exact Nat.lt_of_le_of_ne (hplace i hi) hother
  · rintro ⟨starts, hpacking, hplace, rfl⟩
    exact ⟨starts, hpacking, fun i hi => Nat.le_of_succ_le (hplace i hi), rfl⟩

/-- **An occurrence can be taken where it is met.**  A choice of occurrences from here on has at most one
that starts before the one taken here has ended, namely its first. -/
lemma isGreatest_packedFrom_of_occursAt {n : Nat} (hne : needle ≠ []) (hoccurs : OccursAt needle t place)
    (hrest : IsGreatest (packedFrom needle t (place + needle.length)) n) :
    IsGreatest (packedFrom needle t place) (n + 1) := by
  have hpos : 0 < needle.length := List.length_pos_iff.mpr hne
  obtain ⟨⟨rest, hpacking, hplace, hcard⟩, hmost⟩ := hrest
  constructor
  · have hnew : place ∉ rest := by
      intro hmem
      have hlater := hplace place hmem
      omega
    refine ⟨Insert.insert place rest, hpacking.insert hoccurs hplace, ?_, ?_⟩
    · intro i hi
      rcases Finset.mem_insert.mp hi with rfl | hi
      · exact le_rfl
      · exact Nat.le_of_add_right_le (hplace i hi)
    · rw [Finset.card_insert_of_notMem hnew, hcard]
  · rintro k ⟨starts, hpacking, hplace, rfl⟩
    rcases starts.eq_empty_or_nonempty with rfl | hsome
    · exact Nat.zero_le _
    · -- the first occurrence of the choice gives way to the one that is taken here
      have hfirst : starts.min' hsome ∈ starts := starts.min'_mem hsome
      have hothers : ∀ i ∈ starts.erase (starts.min' hsome), place + needle.length ≤ i := by
        intro i hi
        have hlt := Finset.min'_lt_of_mem_erase_min' starts hsome hi
        have hends := hpacking.add_length_le hne hfirst (Finset.mem_of_mem_erase hi) hlt
        have hfrom := hplace _ hfirst
        omega
      rw [← Finset.card_erase_add_one hfirst]
      exact Nat.succ_le_succ
        (hmost ⟨_, hpacking.subset (Finset.erase_subset _ _), hothers, rfl⟩)

/-! ## The whole count -/

/-- The count on the rest of a text, from the end of the occurrence that was taken last. -/
lemma isGreatest_countFrom (hne : needle ≠ []) (before : Text) (skip : Nat) (rest : Text) :
    IsGreatest (packedFrom needle (before ++ rest) (before.length + skip))
      (countFrom needle skip rest) := by
  induction rest generalizing before skip with
  | nil =>
      rw [countFrom, List.append_nil]
      exact isGreatest_packedFrom_end hne (Nat.le_add_right _ skip)
  | cons c cs ih =>
      have hsplit : before ++ c :: cs = (before ++ [c]) ++ cs := by simp
      have hstep : (before ++ [c]).length = before.length + 1 := by simp
      cases skip with
      | succ skip =>
          have hplace : before.length + (skip + 1) = (before ++ [c]).length + skip := by omega
          rw [countFrom, hsplit, hplace]
          exact ih (before ++ [c]) skip
      | zero =>
          rw [countFrom, Nat.add_zero]
          split
          · next hstart =>
              have hoccurs : OccursAt needle (before ++ c :: cs) before.length :=
                occursAt_append_iff.mpr (List.isPrefixOf_iff_prefix.mp hstart)
              have hend : before.length + needle.length
                  = (before ++ [c]).length + (needle.length - 1) := by
                have hpos : 0 < needle.length := List.length_pos_iff.mpr hne
                omega
              refine isGreatest_packedFrom_of_occursAt hne hoccurs ?_
              rw [hsplit, hend]
              exact ih (before ++ [c]) (needle.length - 1)
          · next hstart =>
              have hnot : ¬ OccursAt needle (before ++ c :: cs) before.length := by
                rwa [occursAt_append_iff, ← List.isPrefixOf_iff_prefix]
              rw [packedFrom_of_not_occursAt hnot, hsplit, ← hstep]
              exact ih (before ++ [c]) 0

/-- **The count from the left is the greatest number of disjoint occurrences.** -/
theorem isGreatest_countDisjoint (hne : needle ≠ []) :
    IsGreatest {k | ∃ starts, IsPacking needle t starts ∧ starts.card = k} (countDisjoint needle t) := by
  have hall : packedFrom needle t 0 = {k | ∃ starts, IsPacking needle t starts ∧ starts.card = k} := by
    simp [packedFrom]
  rw [← hall, countDisjoint, List.isEmpty_eq_false_iff.mpr hne]
  exact isGreatest_countFrom hne [] 0 t

end Packing

end BranchPolicy.Text
