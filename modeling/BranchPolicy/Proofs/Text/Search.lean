import BranchPolicy.Text.Search
import Mathlib.Order.Bounds.Basic
import Mathlib.Tactic.Common

/-!
# Finding a text in another

A text can occur in another at several places, and a search comes to the first of them.  What is found
first is also found first when the text goes on, since an earlier occurrence would have to end before it.

* **`occursIn_iff`** — a text occurs in another exactly when it is a stretch of it.
* `OccursAt` — the places at which a text occurs in another.
* `OccursAt.append`, `OccursAt.of_append` — the occurrences in a text that goes on.
* **`firstIndex?_eq_some_iff`** — the search finds the least of these places.
* `firstIndex?_append` — and finds the same when the text goes on.
-/

namespace BranchPolicy.Text

/-- **A text occurs in another exactly when it is a stretch of it**; the empty text occurs in every
text. -/
theorem occursIn_iff {needle t : Text} : occursIn needle t = true ↔ needle <:+: t := by
  rw [occursIn]
  induction t with
  | nil =>
      rw [firstIndex?, List.infix_nil]
      cases needle <;> simp
  | cons c cs ih =>
      rw [firstIndex?, List.infix_cons_iff, ← ih, ← List.isPrefixOf_iff_prefix]
      by_cases hstart : needle.isPrefixOf (c :: cs) = true
      · simp [hstart]
      · simp [hstart]

/-! ## Places -/

/-- An occurrence of `needle` starts at the character of index `i`.  The empty text occurs at every index
and at the end. -/
def OccursAt (needle t : Text) (i : Nat) : Prop :=
  ∃ before after, t = before ++ (needle ++ after) ∧ before.length = i

section Places

variable {needle t more : Text} {c : Char} {i : Nat}

lemma occursAt_append_iff {before rest : Text} :
    OccursAt needle (before ++ rest) before.length ↔ needle <+: rest := by
  constructor
  · rintro ⟨before', after, ht, hlength⟩
    obtain ⟨-, rfl⟩ := List.append_inj ht hlength.symm
    exact List.prefix_append needle after
  · rintro ⟨after, rfl⟩
    exact ⟨before, after, rfl, rfl⟩

lemma occursAt_zero_iff : OccursAt needle t 0 ↔ needle <+: t :=
  @occursAt_append_iff needle [] t

lemma occursAt_succ_iff : OccursAt needle (c :: t) (i + 1) ↔ OccursAt needle t i := by
  constructor
  · rintro ⟨_ | ⟨d, before⟩, after, ht, hlength⟩
    · exact absurd hlength (Nat.succ_ne_zero i).symm
    · obtain ⟨-, rfl⟩ := List.cons.inj ht
      exact ⟨before, after, rfl, Nat.succ.inj hlength⟩
  · rintro ⟨before, after, rfl, rfl⟩
    exact ⟨c :: before, after, rfl, rfl⟩

lemma infix_iff_exists_occursAt : needle <:+: t ↔ ∃ i, OccursAt needle t i := by
  constructor
  · rintro ⟨before, after, rfl⟩
    exact ⟨before.length, before, after, List.append_assoc before needle after, rfl⟩
  · rintro ⟨i, before, after, rfl, -⟩
    exact ⟨before, after, List.append_assoc before needle after⟩

/-- An occurrence ends within the text. -/
lemma OccursAt.add_length_le (h : OccursAt needle t i) : i + needle.length ≤ t.length := by
  obtain ⟨before, after, rfl, rfl⟩ := h
  simp only [List.length_append]
  omega

lemma OccursAt.append (h : OccursAt needle t i) (more : Text) : OccursAt needle (t ++ more) i := by
  obtain ⟨before, after, rfl, rfl⟩ := h
  exact ⟨before, after ++ more, by simp, rfl⟩

/-- An occurrence that ends before the text goes on was there already. -/
lemma OccursAt.of_append (h : OccursAt needle (t ++ more) i) (hend : i + needle.length ≤ t.length) :
    OccursAt needle t i := by
  obtain ⟨before, after, ht, rfl⟩ := h
  have hlong : before ++ needle <+: t ++ more := ⟨after, by rw [ht, List.append_assoc]⟩
  have hlength : (before ++ needle).length ≤ t.length := by rwa [List.length_append]
  obtain ⟨rest, rfl⟩ := List.prefix_of_prefix_length_le hlong (List.prefix_append t more) hlength
  exact ⟨before, rest, List.append_assoc before needle rest, rfl⟩

end Places

/-! ## The first place -/

section First

variable {needle t : Text} {i : Nat}

lemma isLeast_of_firstIndex? (h : firstIndex? needle t = some i) :
    IsLeast {j | OccursAt needle t j} i := by
  induction t generalizing i with
  | nil =>
      rw [firstIndex?] at h
      split at h
      · next hempty =>
          obtain rfl := Option.some.inj h
          obtain rfl := List.isEmpty_iff.mp hempty
          exact ⟨occursAt_zero_iff.mpr List.nil_prefix, fun j _ => Nat.zero_le j⟩
      · exact absurd h (by simp)
  | cons c cs ih =>
      rw [firstIndex?] at h
      split at h
      · next hstart =>
          obtain rfl := Option.some.inj h
          have hprefix := List.isPrefixOf_iff_prefix.mp hstart
          exact ⟨occursAt_zero_iff.mpr hprefix, fun j _ => Nat.zero_le j⟩
      · next hstart =>
          obtain ⟨k, hk, rfl⟩ := Option.map_eq_some_iff.mp h
          obtain ⟨hoccurs, hleast⟩ := ih hk
          refine ⟨occursAt_succ_iff.mpr hoccurs, ?_⟩
          rintro (_ | j) hj
          · exact absurd (List.isPrefixOf_iff_prefix.mpr (occursAt_zero_iff.mp hj)) hstart
          · exact Nat.succ_le_succ (hleast (occursAt_succ_iff.mp hj))

lemma exists_firstIndex? (h : OccursAt needle t i) : ∃ j, firstIndex? needle t = some j :=
  Option.isSome_iff_exists.mp (occursIn_iff.mpr (infix_iff_exists_occursAt.mpr ⟨i, h⟩))

/-- **The search finds the least of the places at which a text occurs.** -/
theorem firstIndex?_eq_some_iff :
    firstIndex? needle t = some i ↔ IsLeast {j | OccursAt needle t j} i := by
  constructor
  · exact isLeast_of_firstIndex?
  · intro hleast
    obtain ⟨j, hj⟩ := exists_firstIndex? hleast.1
    rw [hj, (isLeast_of_firstIndex? hj).unique hleast]

/-- **What is found first stays first when the text goes on**: an occurrence that starts earlier ends
before the one that was found, and was there already. -/
theorem firstIndex?_append (h : firstIndex? needle t = some i) (more : Text) :
    firstIndex? needle (t ++ more) = some i := by
  obtain ⟨hoccurs, hleast⟩ := firstIndex?_eq_some_iff.mp h
  refine firstIndex?_eq_some_iff.mpr ⟨hoccurs.append more, fun j hj => ?_⟩
  by_contra hlt
  have hend : j + needle.length ≤ t.length := by
    have hfits := hoccurs.add_length_le
    omega
  exact hlt (hleast (OccursAt.of_append hj hend))

end First

end BranchPolicy.Text
