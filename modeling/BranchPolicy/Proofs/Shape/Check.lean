import BranchPolicy.Proofs.Shape.Connectives
import BranchPolicy.Proofs.Shape.NegativeNumbers
import BranchPolicy.Shape.Check

/-!
# Expressions that pass the standard checks

* `firstShapeFault_standard_eq_none_iff` — an expression passes when each check does on its trimmed
  text.
* **`spread_of_passes`** — an expression that passes is its calls with gaps between them.
* **`firstShapeFault_render`** — its rejoined text passes as well.
-/

namespace BranchPolicy

open Expression

lemma firstShapeFault_standard_eq_none_iff {expression : Text} :
    firstShapeFault ShapeCheck.standard expression = none ↔
      parenthesesFault expression.trim = none ∧ quotesFault expression.trim = none ∧
        connectivesFault expression.trim = none ∧ negativeNumbersFault expression.trim = none := by
  simp [firstShapeFault, ShapeCheck.standard]

/-- The check of the parentheses excludes the blank text. -/
lemma trim_ne_nil_of_passes {expression : Text}
    (h : firstShapeFault ShapeCheck.standard expression = none) : expression.trim ≠ [] := by
  obtain ⟨hparentheses, -⟩ := firstShapeFault_standard_eq_none_iff.mp h
  intro hnil
  rw [hnil] at hparentheses
  exact absurd hparentheses (by decide)

/-- The check of the connectives excludes the marks at the two ends. -/
lemma not_mark_at_ends_of_passes {expression : Text}
    (h : firstShapeFault ShapeCheck.standard expression = none) :
    (∀ c ∈ expression.trim.head?, isConnectiveMark c = false) ∧
      ∀ c ∈ expression.trim.getLast?, isConnectiveMark c = false := by
  obtain ⟨-, -, hconnectives, -⟩ := firstShapeFault_standard_eq_none_iff.mp h
  exact not_mark_at_ends (Text.trim_trim expression) hconnectives

/-- **An expression that passes is its calls, spread.** -/
theorem spread_of_passes {expression : Text}
    (h : firstShapeFault ShapeCheck.standard expression = none) :
    Spread (sourceGroups expression).flatten expression.trim := by
  obtain ⟨hhead, hlast⟩ := not_mark_at_ends_of_passes h
  exact spread_trim (trim_ne_nil_of_passes h) hhead hlast

lemma ne_nil_of_spread {cs : List Text} {t : Text} (h : Spread cs t) : cs ≠ [] := by
  cases h <;> simp

/-- The rejoined text of an expression that passes: its calls are spread over it too, and it is
trimmed. -/
lemma exists_spaced_of_passes {expression : Text}
    (h : firstShapeFault ShapeCheck.standard expression = none) :
    ∃ K : Chain Text, K.items = (sourceGroups expression).flatten ∧
      render (clauses expression) = K.spaced ∧ Spread K.items K.spaced ∧
      K.spaced.trim = K.spaced := by
  have hspread := spread_of_passes h
  have hgroups : sourceGroups expression ≠ [] := by
    intro hnil
    exact ne_nil_of_spread hspread (by rw [hnil]; rfl)
  obtain ⟨K, hK, hrender⟩ := exists_chain_of_sourceGroups_ne_nil hgroups
  have hitems : K.items = (sourceGroups expression).flatten := by rw [← K.flatten_groups, hK]
  have hne : ∀ c ∈ (sourceGroups expression).flatten, c ≠ [] :=
    fun c hc => (isCallText_of_mem hc).ne_nil
  have hspaced : Spread K.items K.spaced :=
    spread_spaced fun c hc => quoteOver_of_mem_dropLast (hitems ▸ hc)
  rw [← hitems] at hne
  exact ⟨K, hitems, hrender, hspaced,
    hspaced.trim_eq hne fun c hc => (isCallText_of_mem (hitems ▸ hc)).trim_eq⟩

/-- **The rejoined text of an expression that passes the standard checks passes them too.** -/
theorem firstShapeFault_render {expression : Text}
    (h : firstShapeFault ShapeCheck.standard expression = none) :
    firstShapeFault ShapeCheck.standard (render (clauses expression)) = none := by
  have hspread := spread_of_passes h
  obtain ⟨K, hitems, hrender, hspaced, htrim⟩ := exists_spaced_of_passes h
  have hne : ∀ c ∈ K.items, c ≠ [] := fun c hc => (isCallText_of_mem (hitems ▸ hc)).ne_nil
  rw [← hitems] at hspread
  obtain ⟨hparentheses, hquotes, hconnectives, hnegative⟩ :=
    firstShapeFault_standard_eq_none_iff.mp h
  rw [hrender, firstShapeFault_standard_eq_none_iff, htrim]
  refine ⟨?_, ?_, ?_, ?_⟩
  · rw [parenthesesFault_spread hne hspaced hspread]
    exact hparentheses
  · rw [quotesFault_spread hspaced hspread]
    exact hquotes
  · exact connectivesFault_spaced hne hspread hspaced (Text.trim_trim expression) htrim hconnectives
  · rw [negativeNumbersFault_spread hspaced hspread]
    exact hnegative

end BranchPolicy
