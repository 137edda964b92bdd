import BranchPolicy.Proofs.Expression.Spread

/-!
# The separation of argument lists as a scan

The check of the connectives asks for a connective between each two argument lists and looks ahead
from every closing parenthesis to the next opening one.  The same question is answered by a scan
without looking ahead, and any two gaps do the same to it.

* `SeparationState`, `SeparationState.step` — the scan.
* **`listsSeparated_iff`** — the lists are separated exactly when the scan does not fail.
* `after_gap` — what a gap does; hence **`listsSeparated_spread`**.
* `after_call` — what a call with one argument list does.
-/

namespace BranchPolicy

open Expression (Loose IsGap Spread)
open Text (isBlank isBlankChar)

/-- What the scan knows: a list is open or none has opened yet, a list has closed and no connective
has come since, `last` being the connective whose mark was just read, a connective has come, or two
lists stand without one. -/
inductive SeparationState where
  | inside
  | closed (last : Option Connective)
  | joined
  | failed
  deriving DecidableEq

namespace SeparationState

/-- The state after one more character. -/
def step (s : SeparationState) (c : Char) : SeparationState :=
  match s with
  | inside => if c = ')' then closed none else inside
  | closed last =>
    if c = '(' then failed
    else
      match Connective.ofMark? c with
      | none => closed none
      | some k => if last = some k then joined else closed (some k)
  | joined => if c = '(' then inside else joined
  | failed => failed

/-- The state after a text. -/
def after (s : SeparationState) (t : Text) : SeparationState :=
  t.foldl step s

@[simp] lemma after_nil (s : SeparationState) : s.after [] = s := rfl

@[simp] lemma after_cons (s : SeparationState) (c : Char) (t : Text) :
    s.after (c :: t) = (s.step c).after t := rfl

lemma after_append (s : SeparationState) (x y : Text) : s.after (x ++ y) = (s.after x).after y :=
  List.foldl_append

@[simp] lemma after_failed (t : Text) : failed.after t = failed := by
  induction t with
  | nil => rfl
  | cons c t ih => rw [after_cons]; exact ih

end SeparationState

/-! ## Connectives in a text -/

lemma occursIn_operator_cons (k : Connective) (c : Char) (t : Text) :
    k.operator.occursIn (c :: t)
      = ((c == k.mark && t.head? == some k.mark) || k.operator.occursIn t) := by
  have hprefix : k.operator.isPrefixOf (c :: t) = (c == k.mark && t.head? == some k.mark) := by
    rw [k.operator_eq]
    cases t with
    | nil => simp [List.isPrefixOf]
    | cons d t =>
        rw [Bool.eq_iff_iff]
        simp only [List.isPrefixOf, Bool.and_eq_true, beq_iff_eq, and_true, List.head?_cons,
          Option.some.injEq]
        exact ⟨fun h => ⟨h.1.symm, h.2.symm⟩, fun h => ⟨h.1.symm, h.2.symm⟩⟩
  rw [Text.occursIn, Text.firstIndex?, hprefix]
  cases c == k.mark && t.head? == some k.mark with
  | true => simp
  | false => simp [Text.occursIn]

lemma hasConnective_cons (c : Char) (t : Text) :
    hasConnective (c :: t) = true ↔
      (∃ k : Connective, c = k.mark ∧ t.head? = some k.mark) ∨ hasConnective t = true := by
  have hand := occursIn_operator_cons .and c t
  have hor := occursIn_operator_cons .or c t
  simp only [Connective.operator] at hand hor
  simp only [hasConnective, hand, hor, Bool.or_eq_true, Bool.and_eq_true, beq_iff_eq]
  constructor
  · rintro ((⟨h₁, h₂⟩ | h) | (⟨h₁, h₂⟩ | h))
    · exact Or.inl ⟨.and, h₁, h₂⟩
    · exact Or.inr (Or.inl h)
    · exact Or.inl ⟨.or, h₁, h₂⟩
    · exact Or.inr (Or.inr h)
  · rintro (⟨k, h₁, h₂⟩ | h | h)
    · cases k
      · exact Or.inl (Or.inl ⟨h₁, h₂⟩)
      · exact Or.inr (Or.inl ⟨h₁, h₂⟩)
    · exact Or.inl (Or.inr h)
    · exact Or.inr (Or.inr h)

lemma hasConnective_of_not_mark {c : Char} (hc : isConnectiveMark c = false) (t : Text) :
    hasConnective (c :: t) = hasConnective t := by
  rw [Bool.eq_iff_iff, hasConnective_cons]
  refine ⟨fun h => h.resolve_left ?_, Or.inr⟩
  rintro ⟨k, hk, -⟩
  exact ne_mark_of_not_mark hc k hk

/-- The mark that a scan has just read, as a text. -/
def lastMark : Option Connective → Text
  | none => []
  | some k => [k.mark]

lemma not_hasConnective_lastMark (last : Option Connective) : hasConnective (lastMark last) = false := by
  cases last with
  | none => decide
  | some k => cases k <;> decide

/-- A character that is no mark makes the mark before it forgotten. -/
lemma hasConnective_lastMark_of_not_mark (last : Option Connective) {c : Char}
    (hc : isConnectiveMark c = false) (t : Text) :
    hasConnective (lastMark last ++ c :: t) = hasConnective t := by
  cases last with
  | none => exact hasConnective_of_not_mark hc t
  | some k =>
      rw [Bool.eq_iff_iff, lastMark, List.singleton_append, hasConnective_cons,
        hasConnective_of_not_mark hc]
      refine ⟨fun h => h.resolve_left ?_, Or.inr⟩
      rintro ⟨j, -, hj⟩
      exact ne_mark_of_not_mark hc j (Option.some.inj hj)

/-- A mark writes a connective with an equal mark before it, and takes its place otherwise. -/
lemma hasConnective_lastMark_mark (last : Option Connective) (k : Connective) (t : Text) :
    hasConnective (lastMark last ++ k.mark :: t)
      = (last == some k || hasConnective (lastMark (some k) ++ t)) := by
  cases last with
  | none => rfl
  | some j =>
      rw [Bool.eq_iff_iff, lastMark, List.singleton_append, hasConnective_cons, Bool.or_eq_true,
        beq_iff_eq, Option.some.injEq]
      refine or_congr_left ⟨?_, ?_⟩
      · rintro ⟨i, hji, hki⟩
        rw [Connective.mark_inj.mp hji, Connective.mark_inj.mp (Option.some.inj hki)]
      · rintro rfl
        exact ⟨j, rfl, rfl⟩

/-! ## The scan -/

/-- Looking ahead and scanning agree in the three states that can still end well. -/
lemma listsSeparated_iff_aux (t : Text) :
    (listsSeparated true t = true ↔ SeparationState.inside.after t ≠ .failed) ∧
      (listsSeparated false t = true ↔ SeparationState.joined.after t ≠ .failed) ∧
      ∀ last, (!t.contains '(' || hasConnective (lastMark last ++ t.takeWhile (· != '('))) = true ∧
        listsSeparated false t = true ↔ (SeparationState.closed last).after t ≠ .failed := by
  induction t with
  | nil => simp [listsSeparated]
  | cons c t ih =>
      obtain ⟨hinside, hjoined, hclosed⟩ := ih
      refine ⟨?_, ?_, fun last => ?_⟩
      · rw [listsSeparated, SeparationState.after_cons, SeparationState.step]
        by_cases hc : c = ')'
        · have h := hclosed none
          simpa [hc, lastMark] using h
        · simpa [hc] using hinside
      · rw [listsSeparated, SeparationState.after_cons, SeparationState.step]
        by_cases hc : c = '('
        · simpa [hc] using hinside
        · rw [beq_false_of_ne hc, if_neg hc]
          exact hjoined
      · -- the mark just read is put back in front of what the look-ahead sees
        rw [listsSeparated, SeparationState.after_cons, SeparationState.step]
        by_cases hc : c = '('
        · simp [hc, not_hasConnective_lastMark]
        · have hcontains : (c :: t).contains '(' = t.contains '(' := by
            simp [Ne.symm hc]
          have htake : (c :: t).takeWhile (· != '(') = c :: t.takeWhile (· != '(') := by
            simp [hc]
          rw [hcontains, htake, if_neg hc, beq_false_of_ne hc]
          cases hmark : isConnectiveMark c with
          | false =>
              rw [hasConnective_lastMark_of_not_mark last hmark, Connective.ofMark?_eq_none hmark]
              exact hclosed none
          | true =>
              obtain ⟨k, rfl⟩ := isConnectiveMark_iff.mp hmark
              rw [hasConnective_lastMark_mark, Connective.ofMark?_mark]
              by_cases hlast : last = some k
              · simpa [hlast] using hjoined
              · simp only [beq_false_of_ne hlast, Bool.false_or, if_neg hlast]
                exact hclosed (some k)

/-- **The lists of a text are separated exactly when the scan does not fail.** -/
theorem listsSeparated_iff {t : Text} :
    listsSeparated true t = true ↔ SeparationState.inside.after t ≠ .failed :=
  (listsSeparated_iff_aux t).1

/-! ## Gaps and calls -/

namespace SeparationState

lemma step_of_blank_or_mark {c : Char} (hc : isBlankChar c = true ∨ isConnectiveMark c = true) :
    c ≠ '(' ∧ c ≠ ')' := by
  rcases hc with h | h
  · exact ⟨Text.ne_of_isBlankChar h (by decide), Text.ne_of_isBlankChar h (by decide)⟩
  · obtain ⟨k, rfl⟩ := isConnectiveMark_iff.mp h
    cases k <;> decide

lemma after_inside {t : Text} (ht : ')' ∉ t) : inside.after t = inside := by
  induction t with
  | nil => rfl
  | cons c t ih =>
      simp only [List.mem_cons, not_or] at ht
      rw [after_cons, step, if_neg (Ne.symm ht.1)]
      exact ih ht.2

lemma after_joined {t : Text} (ht : '(' ∉ t) : joined.after t = joined := by
  induction t with
  | nil => rfl
  | cons c t ih =>
      simp only [List.mem_cons, not_or] at ht
      rw [after_cons, step, if_neg (Ne.symm ht.1)]
      exact ih ht.2

lemma after_operator_of_closed (last : Option Connective) (k : Connective) :
    (closed last).after k.operator = joined := by
  have hk : k.mark ≠ '(' := by cases k <;> decide
  rw [k.operator_eq, after_cons, after_cons, after_nil]
  by_cases hlast : last = some k
  · simp [step, hk, hlast]
  · simp [step, hk, hlast]

/-- A blank after a list has closed changes nothing but the memory of a mark. -/
lemma exists_after_blank_of_closed (last : Option Connective) {b : Text} (hb : isBlank b = true) :
    ∃ last', (closed last).after b = closed last' := by
  induction b generalizing last with
  | nil => exact ⟨last, rfl⟩
  | cons c b ih =>
      rw [Text.isBlank_cons, Bool.and_eq_true] at hb
      have hc : c ≠ '(' := (step_of_blank_or_mark (Or.inl hb.1)).1
      have hmark := Connective.ofMark?_eq_none (isConnectiveMark_of_isBlankChar hb.1)
      rw [after_cons, step, if_neg hc, hmark]
      exact ih none hb.2

/-- **What a gap does to the scan.**  It brings a connective where one is missing and changes nothing
elsewhere. -/
theorem after_gap {g : Text} (hg : IsGap g) (s : SeparationState) :
    s.after g = match s with
      | inside => inside
      | closed _ => joined
      | joined => joined
      | failed => failed := by
  have hparen : ∀ c ∈ g, c ≠ '(' ∧ c ≠ ')' := fun c hc =>
    step_of_blank_or_mark (hg.loose.blank_or_mark hc)
  cases s with
  | inside => exact after_inside fun h => (hparen _ h).2 rfl
  | joined => exact after_joined fun h => (hparen _ h).1 rfl
  | failed => exact after_failed g
  | closed last =>
      obtain ⟨hb, k, hloose⟩ := hg
      rename_i b g
      obtain ⟨last', hlast'⟩ := exists_after_blank_of_closed last hb
      rw [after_append, after_append, hlast', after_operator_of_closed]
      refine after_joined fun h => ?_
      exact (step_of_blank_or_mark (hloose.blank_or_mark h)).1 rfl

/-- A call whose only parentheses are those of its list leaves a closed list behind. -/
lemma after_call {s : SeparationState} (hs : s = inside ∨ s = joined) {x a : Text}
    (hx : '(' ∉ x ∧ ')' ∉ x) (ha : ')' ∉ a) : s.after (x ++ '(' :: (a ++ [')'])) = closed none := by
  have hname : s.after x = s := by
    rcases hs with rfl | rfl
    · exact after_inside hx.2
    · exact after_joined hx.1
  have hopen : s.step '(' = inside := by rcases hs with rfl | rfl <;> rfl
  rw [after_append, hname, after_cons, hopen, after_append, after_inside ha]
  rfl

end SeparationState

/-- **Spreading the same calls differently makes no difference to the separation of their lists.** -/
theorem listsSeparated_spread {cs : List Text} {t t' : Text} (h : Spread cs t) (h' : Spread cs t') :
    listsSeparated true t = listsSeparated true t' := by
  have heq : SeparationState.inside.after t = SeparationState.inside.after t' := by
    refine h.foldl_eq (P := fun _ => True) (fun _ _ => trivial) (fun {s g g'} _ hg hg' => ⟨?_, trivial⟩)
      h' trivial
    exact (SeparationState.after_gap hg s).trans (SeparationState.after_gap hg' s).symm
  rw [Bool.eq_iff_iff, listsSeparated_iff, listsSeparated_iff, heq]

end BranchPolicy
