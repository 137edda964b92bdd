import BranchPolicy.Proofs.Shape.Check
import BranchPolicy.Proofs.Text.Search

/-!
# Where a connective is asked for

The check of the connectives looks from a `)` to the next `(` and goes on at the first `)` after that.  A
`)` that comes right after another `)`, with no parenthesis between them, is therefore never looked at, and
nothing has to stand between it and the next list.

* `lastParenthesis?` — the parenthesis that the check has read last.
* `hasConnective_append` — what comes later does not take a connective away.
* **`listsSeparated_iff_gaps`** — the gaps that hold a connective when the lists are separated.
* **`connectivesFault_eq_none_iff_gaps`** — the expressions that pass the check of the connectives.
* `passes_with_bare_gap` — an expression that passes with nothing but a name between two lists.
-/

namespace BranchPolicy

/-! ## Connectives in a stretch -/

/-- A text that holds a connective still does with more text behind it. -/
lemma hasConnective_append {y : Text} (hy : hasConnective y = true) (y' : Text) :
    hasConnective (y ++ y') = true := by
  simp only [hasConnective, Bool.or_eq_true, Text.occursIn_iff] at hy ⊢
  have hprefix : y <:+: y ++ y' := (List.prefix_append y y').isInfix
  exact hy.imp (·.trans hprefix) (·.trans hprefix)

/-- **Looking ahead to the next `(`** asks for a connective before every later one. -/
lemma lookAhead_iff {t : Text} :
    (!t.contains '(' || hasConnective (t.takeWhile (· != '('))) = true ↔
      ∀ y z, t = y ++ '(' :: z → hasConnective y = true := by
  rw [Bool.or_eq_true, Bool.not_eq_true', List.contains_eq_mem, decide_eq_false_iff_not]
  constructor
  · rintro h y z rfl
    have hconnective := h.resolve_left (not_not_intro (by simp))
    -- the stretch up to the next `(` begins every longer one
    rw [List.takeWhile_append] at hconnective
    split at hconnective
    · simpa using hconnective
    · obtain ⟨y', hy⟩ := List.takeWhile_prefix (p := (· != '(')) (l := y)
      rw [← hy]
      exact hasConnective_append hconnective y'
  · intro h
    by_cases hmem : '(' ∈ t
    · obtain ⟨y, z, rfl, hy⟩ := List.eq_append_cons_of_mem hmem
      have htake : (y ++ '(' :: z).takeWhile (· != '(') = y := by
        rw [List.takeWhile_append_of_pos fun c hc => bne_iff_ne.mpr (ne_of_mem_of_not_mem hc hy)]
        simp
      exact Or.inr (htake.symm ▸ h y z rfl)
    · exact Or.inl hmem

/-! ## Gaps between lists -/

/-- The last parenthesis of a text, if it has one. -/
def lastParenthesis? (t : Text) : Option Char :=
  (t.filter isParenthesis).getLast?

lemma lastParenthesis?_eq (t : Text) :
    lastParenthesis? t = none ∨ lastParenthesis? t = some '(' ∨ lastParenthesis? t = some ')' := by
  cases hlast : lastParenthesis? t with
  | none => exact Or.inl rfl
  | some c =>
      have hc := List.of_mem_filter (List.mem_of_getLast? hlast)
      simp only [isParenthesis, Bool.or_eq_true, beq_iff_eq] at hc
      rcases hc with rfl | rfl
      · exact Or.inr (Or.inl rfl)
      · exact Or.inr (Or.inr rfl)

/-- The last parenthesis read after `p`, when one more character comes first. -/
lemma getD_lastParenthesis?_cons (p c : Char) (t : Text) :
    (lastParenthesis? (c :: t)).getD p
      = (lastParenthesis? t).getD (if isParenthesis c then c else p) := by
  cases hc : isParenthesis c with
  | false => simp [lastParenthesis?, hc]
  | true => simp [lastParenthesis?, hc, List.getLast?_cons]

/-- A gap of a text starts at its first character or stands in the rest of it. -/
lemma forall_gap_cons {P : Text → Text → Prop} {c : Char} {t : Text} :
    (∀ x y z, c :: t = x ++ ')' :: (y ++ '(' :: z) → P x y) ↔
      (c = ')' → ∀ y z, t = y ++ '(' :: z → P [] y) ∧
        ∀ x y z, t = x ++ ')' :: (y ++ '(' :: z) → P (c :: x) y := by
  constructor
  · intro h
    refine ⟨fun hc y z ht => h [] y z ?_, fun x y z ht => h (c :: x) y z ?_⟩
    · rw [hc, ht, List.nil_append]
    · rw [ht, List.cons_append]
  · rintro ⟨hfirst, hrest⟩ x y z ht
    cases x with
    | nil =>
        obtain ⟨hc, hsplit⟩ := List.cons.inj ht
        exact hfirst hc y z hsplit
    | cons d x =>
        obtain ⟨rfl, hsplit⟩ := List.cons.inj ht
        exact hrest x y z hsplit

/-- The check after a parenthesis: `(` if the next `)` is looked at, and `)` if it is passed over. -/
lemma listsSeparated_iff_gaps_aux (isOpen : Bool) (t : Text) :
    listsSeparated isOpen t = true ↔ ∀ x y z, t = x ++ ')' :: (y ++ '(' :: z) →
      (lastParenthesis? x).getD (if isOpen then '(' else ')') = '(' → hasConnective y = true := by
  induction t generalizing isOpen with
  | nil => simp [listsSeparated]
  | cons c t ih =>
      have hnil : lastParenthesis? [] = none := rfl
      rw [forall_gap_cons]
      simp only [getD_lastParenthesis?_cons, hnil, Option.getD_none]
      cases isOpen with
      | false =>
          have hnext : (if isParenthesis c then c else ')') = if (c == '(') = true then '(' else ')' := by
            by_cases hc : c = '('
            · simp [hc, isParenthesis]
            · by_cases hc' : c = ')' <;> simp [hc, hc', isParenthesis]
          rw [listsSeparated, ih]
          simp [hnext]
      | true =>
          rw [listsSeparated]
          by_cases hc : c = ')'
          · rw [if_pos (beq_iff_eq.mpr hc), Bool.and_eq_true, lookAhead_iff, ih]
            simp [hc, isParenthesis]
          · have hnext : (if isParenthesis c then c else '(') = '(' := by
              by_cases hc' : c = '(' <;> simp [hc, hc', isParenthesis]
            rw [if_neg (by simpa using hc), ih]
            simp [hc, hnext]

/-- **The gaps that hold a connective.**  The lists of a text are separated exactly when there is a
connective between each `)` and every later `(`, unless the parenthesis before the `)` is another one. -/
theorem listsSeparated_iff_gaps {t : Text} :
    listsSeparated true t = true ↔ ∀ x y z, t = x ++ ')' :: (y ++ '(' :: z) →
      lastParenthesis? x ≠ some ')' → hasConnective y = true := by
  have hlooked : ∀ x : Text, (lastParenthesis? x).getD '(' = '(' ↔ lastParenthesis? x ≠ some ')' := by
    intro x
    rcases lastParenthesis?_eq x with h | h | h <;> simp [h]
  rw [listsSeparated_iff_gaps_aux]
  simp only [if_true, hlooked]

/-! ## Without trimming -/

namespace SeparationState

/-- After a text without `(` the scan has failed only if it had failed before. -/
lemma after_ne_failed {s : SeparationState} {t : Text} (ht : '(' ∉ t) :
    s.after t ≠ .failed ↔ s ≠ .failed := by
  induction t generalizing s with
  | nil => rfl
  | cons c t ih =>
      simp only [List.mem_cons, not_or] at ht
      have hstep : s.step c ≠ failed ↔ s ≠ failed := by
        cases s with
        | inside => by_cases hc : c = ')' <;> simp [step, hc]
        | closed last =>
            rw [step, if_neg (Ne.symm ht.1)]
            cases Connective.ofMark? c with
            | none => simp
            | some k => by_cases hlast : last = some k <;> simp [hlast]
        | joined => simp [step, Ne.symm ht.1]
        | failed => simp [step]
      rw [after_cons, ih ht.2, hstep]

end SeparationState

section Trimming

variable (t : Text)

lemma hasManyLists_trim : hasManyLists t.trim = hasManyLists t := by
  rw [hasManyLists, hasManyLists, Text.count_trim (by decide), Text.count_trim (by decide)]

lemma any_isConnectiveMark_trim : t.trim.any isConnectiveMark = t.any isConnectiveMark := by
  rw [Bool.eq_iff_iff, List.any_eq_true, List.any_eq_true]
  refine exists_congr fun c => and_congr_left fun hc => ?_
  obtain ⟨k, rfl⟩ := isConnectiveMark_iff.mp hc
  exact Text.mem_trim_iff (by cases k <;> decide) t

/-- Whether lists are separated does not depend on blanks at the ends. -/
lemma listsSeparated_trim : listsSeparated true t.trim = listsSeparated true t := by
  obtain ⟨a, b, ha, hb, ht⟩ := Text.exists_eq_append_trim_append t
  rw [Bool.eq_iff_iff, listsSeparated_iff, listsSeparated_iff]
  conv_rhs => rw [ht]
  rw [SeparationState.after_append, SeparationState.after_append,
    SeparationState.after_inside (Text.not_mem_of_isBlank (by decide) ha),
    SeparationState.after_ne_failed (Text.not_mem_of_isBlank (by decide) hb)]

end Trimming

/-! ## What passes -/

/-- **The expressions that pass the check of the connectives.**  Without connective marks an expression
passes when it does not have two lists.  With marks it passes when none stands at an end of its trimmed
text, every run of them is a connective, and there is a connective between each `)` and every later `(`,
unless the parenthesis before the `)` is another one. -/
theorem connectivesFault_eq_none_iff_gaps {expression : Text} :
    connectivesFault expression = none ↔
      if expression.any isConnectiveMark then
        (∀ k, isAtEdge k expression.trim = false) ∧ HasGoodRuns expression.trim ∧
          ∀ x y z, expression = x ++ ')' :: (y ++ '(' :: z) → lastParenthesis? x ≠ some ')' →
            hasConnective y = true
      else hasManyLists expression = false := by
  have htrim : connectivesFault expression = connectivesFault expression.trim := by
    rw [connectivesFault, connectivesFault, Text.trim_trim]
  have hmarks := any_isConnectiveMark_trim expression
  rw [htrim]
  split
  · next hany =>
      rw [connectivesFault_eq_none_iff (Text.trim_trim _) (hmarks.trans hany), ← runs_iff,
        findSome?_runFault_eq_none_iff, listsSeparated_trim, listsSeparated_iff_gaps]
  · next hany =>
      rw [connectivesFault_eq_none_iff_of_not_mark (Text.trim_trim _)
        (hmarks.trans (Bool.not_eq_true _ ▸ hany)), hasManyLists_trim]

/-- **Two lists with nothing but a name between them pass the standard checks.**  The check looks at the
`)` in the first string, finds the connective in that string and passes over the `)` that closes the
list. -/
theorem passes_with_bare_gap :
    connectivesFault "contains('(a) && b') endsWith('c')".toList = none ∧
      firstShapeFault ShapeCheck.standard "contains('(a) && b') endsWith('c')".toList = none ∧
      "contains('(a) && b') endsWith('c')".toList
        = "contains('(a) && b'".toList ++ ')' :: (" endsWith".toList ++ '(' :: "'c')".toList) ∧
      lastParenthesis? "contains('(a) && b'".toList = some ')' ∧
      hasConnective " endsWith".toList = false := by
  decide

end BranchPolicy
