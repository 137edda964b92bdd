import BranchPolicy.Proofs.Expression.Argument
import BranchPolicy.Proofs.Resolution
import BranchPolicy.Proofs.Text.QuoteState

/-!
# What the text of a call says

* `nameOf_call`, `argumentList_call` — the two parts of a text with an argument list at its end; also
  `getLast?_call`, `quoteOver_call`.
* `exists_eq_of_endsInList` — the texts that resolving accepts as calls are of this form.
* `Written` — the pieces of an argument list denote the values of parameters, one each.
* **`isBlank_or_written`** — arguments that fit parameters were written in a blank list or in as many
  pieces as there are parameters.
-/

namespace BranchPolicy

open Text (isBlank quoteAfter quoteOver unquotedPieces trim)

/-! ## The two parts of a call -/

section Parts

variable {x : Text} (hx : '(' ∉ x) (a : Text)
include hx

lemma takeWhile_call : (x ++ '(' :: a).takeWhile (· != '(') = x := by
  have hall : ∀ c ∈ x, (c != '(') = true := by
    intro c hc
    have hne : c ≠ '(' := fun h => hx (h ▸ hc)
    simpa using hne
  rw [List.takeWhile_append_of_pos hall]
  simp

lemma dropWhile_call : (x ++ '(' :: a).dropWhile (· != '(') = '(' :: a := by
  have hall : ∀ c ∈ x, (c != '(') = true := by
    intro c hc
    have hne : c ≠ '(' := fun h => hx (h ▸ hc)
    simpa using hne
  rw [List.dropWhile_append_of_pos hall]
  simp

lemma nameOf_call : Call.nameOf (x ++ '(' :: a) = x.trim := by
  rw [Call.nameOf, takeWhile_call hx]

lemma argumentList_call : Call.argumentList (x ++ '(' :: (a ++ [')'])) = a := by
  rw [Call.argumentList, dropWhile_call hx]
  simp

end Parts

lemma getLast?_call (x a : Text) : (x ++ '(' :: (a ++ [')'])).getLast? = some ')' := by
  rw [← List.cons_append, ← List.append_assoc, List.getLast?_concat]

/-- A name and a list that leave no quote open make a call that leaves none open. -/
lemma quoteOver_call {x a : Text} (hx : quoteOver none x = none) (ha : quoteOver none a = none) :
    quoteOver none (x ++ '(' :: (a ++ [')'])) = none := by
  have hparen : ∀ c, c = '(' ∨ c = ')' → quoteAfter none c = none := by
    rintro c (rfl | rfl) <;> rfl
  simp [Text.quoteOver_append, hx, ha, hparen]

/-- A text that ends in a list is a name before the first opening parenthesis, and a list between it
and the last character. -/
lemma exists_eq_of_endsInList {t : Text} (h : endsInList t = true) :
    ∃ x a, t = x ++ '(' :: (a ++ [')']) ∧ '(' ∉ x := by
  rw [endsInList, Bool.and_eq_true, List.contains_iff_mem, beq_iff_eq] at h
  obtain ⟨hmem, hlast⟩ := h
  have hx : '(' ∉ t.takeWhile (· != '(') := by
    intro hin
    have hne := List.mem_takeWhile_imp hin
    simp at hne
  cases hrest : t.dropWhile (· != '(') with
  | nil =>
      have hall := List.dropWhile_eq_nil_iff.mp hrest '(' hmem
      simp at hall
  | cons c rest =>
      have hc : c = '(' := by
        have hhead := List.head?_dropWhile_not (· != '(') t
        rw [hrest] at hhead
        simpa using hhead
      have ht : t = t.takeWhile (· != '(') ++ '(' :: rest := by
        conv => lhs; rw [← List.takeWhile_append_dropWhile (p := (· != '(')) (l := t), hrest, hc]
      rcases List.eq_nil_or_concat rest with rfl | ⟨a, d, rfl⟩
      · rw [ht, List.getLast?_concat] at hlast
        exact absurd hlast (by simp)
      · rw [List.concat_eq_append] at ht
        have hd : d = ')' := by
          rw [ht, ← List.cons_append, ← List.append_assoc, List.getLast?_concat] at hlast
          exact Option.some.inj hlast
        exact ⟨t.takeWhile (· != '('), a, hd ▸ ht, hx⟩

/-! ## Arguments as written -/

/-- The trimmed pieces of an argument list denote the values, one piece and one value for each
parameter. -/
inductive Written : List Text → List Parameter → List Value → Prop
  | nil : Written [] [] []
  | cons {piece : Text} {p : Parameter} {v : Value} {pieces : List Text} {ps : List Parameter}
      {vs : List Value} (hpiece : Denotes p.kind piece.trim v) (hrest : Written pieces ps vs) :
      Written (piece :: pieces) (p :: ps) (v :: vs)

lemma Written.length_eq {pieces : List Text} {ps : List Parameter} {vs : List Value}
    (h : Written pieces ps vs) : pieces.length = ps.length ∧ vs.length = ps.length := by
  induction h with
  | nil => exact ⟨rfl, rfl⟩
  | cons hpiece hrest ih => simpa using ih

/-- Pieces read as arguments fit parameters exactly when they are written for them. -/
lemma fits_map_ofText_iff {pieces : List Text} {ps : List Parameter} {vs : List Value} :
    Fits (pieces.map fun piece => Argument.ofText piece.trim) ps vs ↔ Written pieces ps vs := by
  constructor
  · intro h
    induction pieces generalizing ps vs with
    | nil =>
        cases h
        exact Written.nil
    | cons piece pieces ih =>
        rw [List.map_cons] at h
        cases h with
        | cons hkind hvalue hrest =>
            exact Written.cons (ofText_denotes_iff.mp ⟨hkind, hvalue⟩) (ih hrest)
  · intro h
    induction h with
    | nil => exact Fits.nil
    | cons hpiece hrest ih =>
        obtain ⟨hkind, hvalue⟩ := ofText_denotes_iff.mpr hpiece
        exact Fits.cons hkind hvalue ih

/-- **Arguments that fit were written so**: in a blank list if there are no parameters, and otherwise
in as many pieces as there are parameters. -/
theorem isBlank_or_written {a : Text} {ps : List Parameter} {vs : List Value}
    (h : Fits ((Call.argumentTexts a).map Argument.ofText) ps vs) :
    (ps = [] → isBlank a = true ∧ vs = []) ∧
      (ps ≠ [] → Written (unquotedPieces [','] a) ps vs) := by
  rw [Call.argumentTexts] at h
  by_cases hblank : isBlank a = true
  · rw [if_pos hblank] at h
    cases h
    exact ⟨fun _ => ⟨hblank, rfl⟩, fun hne => absurd rfl hne⟩
  · rw [if_neg hblank, List.map_map] at h
    have hwritten : Written (unquotedPieces [','] a) ps vs := fits_map_ofText_iff.mp h
    refine ⟨fun hps => ?_, fun _ => hwritten⟩
    have hlength := hwritten.length_eq.1
    rw [hps] at hlength
    exact absurd (List.length_eq_zero_iff.mp hlength) (Text.unquotedPieces_ne_nil _ _)

end BranchPolicy
