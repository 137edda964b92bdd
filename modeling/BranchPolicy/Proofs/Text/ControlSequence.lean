import BranchPolicy.Text.ControlSequence
import Mathlib.Tactic.Common

/-!
# Control sequences and line breaks

Which control sequences a stream leaves out is not known.  But none of them holds a line break, so that a
text loses its control sequences line by line, and a text without an escape character loses nothing.

* `newline_not_mem` — no control sequence holds a line break.
* `Strips.mem`, `Strips.cons` — nothing is added, and only an escape character can be left out at the start.
* **`Strips.eq_self`** — a text without escape characters is left as it is.
* **`Strips.append_break`** — what is left of two lines is what is left of each.
-/

namespace BranchPolicy.Text

/-- **No control sequence holds a line break.** -/
lemma newline_not_mem {s : Text} (h : IsControlSequence s) : '\n' ∉ s := by
  obtain ⟨parameters, final, rfl, hparameters, hfinal, -⟩ := h
  intro hmem
  simp only [List.mem_cons, List.mem_append, List.not_mem_nil, or_false] at hmem
  rcases hmem with h | h | h | rfl
  · exact absurd h (by decide)
  · exact absurd h (by decide)
  · exact absurd (hparameters _ h).1 (by decide)
  · exact absurd hfinal (by decide)

namespace Strips

variable {s t u : Text}

/-- Nothing is added. -/
lemma mem {c : Char} (h : Strips t u) (hc : c ∈ u) : c ∈ t := by
  induction h with
  | nil => exact hc
  | keep d h ih =>
      rcases List.mem_cons.mp hc with rfl | hc
      · exact List.mem_cons_self
      · exact List.mem_cons_of_mem d (ih hc)
  | drop hs h ih => exact List.mem_append_right _ (ih hc)

/-- A control sequence begins with an escape character, so that every other character at the start of a
text is kept. -/
lemma cons {c : Char} (hc : c ≠ '\x1b') (h : Strips (c :: t) u) : ∃ u', u = c :: u' ∧ Strips t u' := by
  generalize hw : c :: t = w at h
  cases h with
  | nil => exact absurd hw (by simp)
  | keep d h =>
      obtain ⟨rfl, rfl⟩ := List.cons.inj hw
      exact ⟨_, rfl, h⟩
  | drop hs h =>
      obtain ⟨parameters, final, rfl, -⟩ := hs
      exact absurd (List.cons.inj hw).1 hc

/-- **A text without escape characters is left as it is.** -/
theorem eq_self (ht : '\x1b' ∉ t) (h : Strips t u) : u = t := by
  induction t generalizing u with
  | nil =>
      generalize hw : [] = w at h
      cases h with
      | nil => rfl
      | keep c h => exact absurd hw (by simp)
      | drop hs h =>
          obtain ⟨parameters, final, rfl, -⟩ := hs
          exact absurd hw (by simp)
  | cons c t ih =>
      obtain ⟨hc, ht⟩ : c ≠ '\x1b' ∧ '\x1b' ∉ t := by
        simpa [eq_comm] using ht
      obtain ⟨u', rfl, hrest⟩ := h.cons hc
      rw [ih ht hrest]

/-- **A text loses its control sequences line by line.** -/
theorem append_break (h : Strips (s ++ '\n' :: t) u) :
    ∃ s' t', u = s' ++ '\n' :: t' ∧ Strips s s' ∧ Strips t t' := by
  generalize hw : s ++ '\n' :: t = w at h
  induction h generalizing s with
  | nil => exact absurd hw (by simp)
  | keep c h ih =>
      cases s with
      | nil =>
          obtain ⟨rfl, rfl⟩ := List.cons.inj hw
          exact ⟨[], _, rfl, .nil, h⟩
      | cons d s =>
          obtain ⟨rfl, rfl⟩ := List.cons.inj hw
          obtain ⟨s', t', rfl, hs, ht⟩ := ih rfl
          exact ⟨d :: s', t', rfl, .keep d hs, ht⟩
  | @drop q r u hq h ih =>
      -- the line break is behind the sequence, which ends in the first line
      rcases List.append_eq_append_iff.mp hw with ⟨m, rfl, hr⟩ | ⟨m, rfl, rfl⟩
      · cases m with
        | nil =>
            obtain ⟨s', t', rfl, hs, ht⟩ := ih (s := []) hr
            rw [List.append_nil] at hq
            exact ⟨s', t', rfl, by simpa using Strips.drop hq hs, ht⟩
        | cons c m =>
            obtain ⟨rfl, -⟩ := List.cons.inj hr
            exact absurd (by simp) (newline_not_mem hq)
      · obtain ⟨s', t', rfl, hs, ht⟩ := ih rfl
        exact ⟨s', t', rfl, .drop hq hs, ht⟩

end Strips

end BranchPolicy.Text
