import BranchPolicy.Evaluation
import BranchPolicy.Proofs.Shape.Check

/-!
# Rejoining preserves meaning

`Expression.render` prints clauses with one space around each connective.  Printing the clauses of an
expression changes its blanks and drops the connectives next to blank operands, and neither extraction
nor the checks nor the evaluation notice.

* `filter_sourceGroups`, `filter_render_clauses` — the other characters are all in the calls, and so
  they survive rejoining.
* **`rejoining_keeps_clauses`** — the rejoined text of any expression, well formed or not, has its
  clauses, and rejoining it again changes nothing.
* `plan_eq_of_clauses_eq` — a plan depends on the clauses of an expression once its shape is accepted.
* **`evaluate_render_clauses`** — the rejoined text of an accepted expression is accepted and evaluates
  to the same outcome or the same failure.
-/

namespace BranchPolicy

/-! ## Characters that survive -/

namespace Expression

open Text (isBlank isBlankChar trim)

/-- Whether a character is neither blank nor a mark of a connective. -/
def isKept (c : Char) : Bool :=
  !isBlankChar c && !isConnectiveMark c

lemma filter_isKept_of_isBlank {b : Text} (hb : isBlank b = true) : b.filter isKept = [] := by
  rw [List.filter_eq_nil_iff]
  intro c hc
  simp [isKept, Text.isBlank_iff.mp hb c hc]

lemma filter_isKept_trim (t : Text) : (trim t).filter isKept = t.filter isKept := by
  obtain ⟨a, b, ha, hb, h⟩ := Text.exists_eq_append_trim_append t
  conv => rhs; rw [h]
  rw [List.filter_append, List.filter_append, filter_isKept_of_isBlank ha,
    filter_isKept_of_isBlank hb, List.nil_append, List.append_nil]

/-- What is kept of the text of a chain is what is kept of its items. -/
lemma filter_isKept_text (K : Chain Text) :
    K.text.filter isKept = K.items.flatten.filter isKept := by
  induction K with
  | last p => simp [Chain.items]
  | next p k rest ih =>
      have hoperator : k.operator.filter isKept = [] := by cases k <;> decide
      rw [Chain.text_next, Chain.items, List.flatten_cons, List.filter_append, List.filter_append,
        List.filter_append, hoperator, ih, List.nil_append]

/-- **The calls hold every character that is neither blank nor a mark**, in order. -/
theorem filter_sourceGroups (expression : Text) :
    (sourceGroups expression).flatten.flatten.filter isKept = expression.filter isKept := by
  have htrim : ∀ ps : List Text,
      (ps.map trim).flatten.filter isKept = ps.flatten.filter isKept := by
    intro ps
    simp only [List.filter_flatten, List.map_map, Function.comp_def, filter_isKept_trim]
  have hscan : (scan none expression).items.flatten.filter isKept = expression.filter isKept := by
    rw [← filter_isKept_text, text_scan]
  rw [flatten_sourceGroups, List.flatten_filter_not_isEmpty, htrim, hscan]

/-- **Rejoining keeps every character that is neither blank nor a mark**, in order. -/
theorem filter_render_clauses (expression : Text) :
    (render (clauses expression)).filter isKept = expression.filter isKept := by
  rw [← filter_sourceGroups, sourceGroups_render, filter_sourceGroups]

/-- **Rejoining keeps the clauses.**  Of every expression, well formed or not, the rejoined text has the
same clauses, with the name, the arguments and the text of each call.  So rejoining it again gives the
same text.  No characters but blanks and marks of connectives are lost on the way. -/
theorem rejoining_keeps_clauses (expression : Text) :
    clauses (render (clauses expression)) = clauses expression ∧
      render (clauses (render (clauses expression))) = render (clauses expression) ∧
      (render (clauses expression)).filter isKept = expression.filter isKept := by
  have hclauses := clauses_render_clauses expression
  exact ⟨hclauses, congrArg render hclauses, filter_render_clauses expression⟩

end Expression

/-! ## The same evaluation -/

namespace Dialect

open Expression (clauses render)

lemma plan_eq_of_clauses_eq {d : Dialect} {e e' : Text} (h : d.shapeFault? (some e) = none)
    (h' : d.shapeFault? (some e') = none) (hclauses : clauses e = clauses e') :
    d.plan (some e) = d.plan (some e') := by
  rw [plan, plan, h, h', Option.getD_some, Option.getD_some, hclauses]

/-- **Rejoining preserves meaning.**  When the standard checks accept an expression, they accept its
rejoined text; in every registry and on every branch name both evaluate to the same outcome, with the
same fault or the same verdict and trace, or end in the same failure. -/
theorem evaluate_render_clauses (e : Text) (h : firstShapeFault ShapeCheck.standard e = none) :
    firstShapeFault ShapeCheck.standard (render (clauses e)) = none ∧
      ∀ (r : Registry) (branch : Option Text),
        ({ registry := r } : Dialect).evaluate (some (render (clauses e))) branch
          = ({ registry := r } : Dialect).evaluate (some e) branch := by
  have hrender := firstShapeFault_render h
  refine ⟨hrender, fun r branch => ?_⟩
  have hplan : ({ registry := r } : Dialect).plan (some (render (clauses e)))
      = ({ registry := r } : Dialect).plan (some e) :=
    plan_eq_of_clauses_eq hrender h (Expression.clauses_render_clauses e)
  rw [evaluate, evaluate, hplan]

/-- A blank operand is dropped with one of the connectives beside it. -/
theorem evaluate_render_clauses_blank_operand :
    render (clauses "a() && && b()".toList) = "a() && b()".toList ∧
      firstShapeFault ShapeCheck.standard "a() && b()".toList = none ∧
      ∀ (r : Registry) (branch : Option Text),
        ({ registry := r } : Dialect).evaluate (some "a() && b()".toList) branch
          = ({ registry := r } : Dialect).evaluate (some "a() && && b()".toList) branch := by
  have hshape : firstShapeFault ShapeCheck.standard "a() && && b()".toList = none := by decide
  have hrender : render (clauses "a() && && b()".toList) = "a() && b()".toList := by decide
  have h := evaluate_render_clauses "a() && && b()".toList hshape
  rw [hrender] at h
  exact ⟨hrender, h⟩

end Dialect

end BranchPolicy
