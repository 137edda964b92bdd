import BranchPolicy.Proofs.Expression.Span
import BranchPolicy.Proofs.Shape.Check
import Mathlib.Data.List.Infix

/-!
# Quotes and argument lists

The check of the quotes counts every parenthesis, also those inside strings, while the argument lists are
found by the parentheses outside strings only.  The two agree on a text whose strings hold as many opening
as closing parentheses and in which no `)` outside strings closes what was not open.  In other texts a
quote can pass the check and yet stand in no list.

* `QuotesInLists` — each quote stands strictly inside a span.
* `IsWellNested` — the texts on which the two counts agree; `isWellNested_iff`.
* `isInList_of_passes` — the opening quotes of a well-nested text that passes.
* **`quotes_inside_spans`** — when the quotes of an expression that passes stand inside spans.
* `passes_with_quotes_outside` — an expression that passes with quotes in no list.
-/

namespace BranchPolicy

open Expression (IsInList isInList_string openLists openLists_quoted openAfter outermostSpans)
open Text (isQuote quoteAfter quoteOver)

/-- **Each quote stands in an argument list**: its index is strictly between those of a span. -/
def QuotesInLists (t : Text) : Prop :=
  ∀ i c, t[i]? = some c → isQuote c = true →
    ∃ s ∈ outermostSpans t, s.opening < i ∧ i < s.closing

/-- The quotes stand in argument lists exactly when those do that open a string. -/
lemma quotesInLists_iff {t : Text} : QuotesInLists t ↔
    ∀ x c y, t = x ++ c :: y → quoteOver none x = none → isQuote c = true → IsInList x (c :: y) := by
  constructor
  · rintro h x c y rfl - hc
    have hindex : (x ++ c :: y)[x.length]? = some c := by simp
    exact (Expression.exists_span_around_iff fun _ => Text.ne_parenthesis_of_isQuote hc).mp (h _ c hindex hc)
  · intro h i c hi hc
    obtain ⟨hlt, rfl⟩ := List.getElem?_eq_some_iff.mp hi
    have hsplit : t = t.take i ++ t[i] :: t.drop (i + 1) := by simp
    have hlength : (t.take i).length = i := List.length_take_of_le (Nat.le_of_lt hlt)
    generalize t.take i = x, t[i] = c, t.drop (i + 1) = y at hsplit hlength hc
    subst hsplit hlength
    refine (Expression.exists_span_around_iff fun _ => Text.ne_parenthesis_of_isQuote hc).mpr ?_
    cases hx : quoteOver none x with
    | none => exact h x c y rfl hx hc
    | some opener =>
        obtain ⟨x, s, rfl, hx, hopener, hs⟩ := Text.exists_string_of_quoteOver_eq_some hx
        refine isInList_string hx hopener hs (h x opener (s ++ c :: y) ?_ hx hopener)
        rw [List.append_assoc, List.cons_append]

/-! ## Well-nested texts -/

/-- **A text whose parentheses can be counted with or without strings**: each string holds as many opening
as closing ones, and outside strings there have never been more closing than opening ones. -/
structure IsWellNested (t : Text) : Prop where
  strings : ∀ x opener s y, t = x ++ opener :: (s ++ opener :: y) → quoteOver none x = none →
    isQuote opener = true → opener ∉ s → s.count '(' = s.count ')'
  lists : ∀ x y, t = x ++ y → quoteOver none x = none → x.count ')' ≤ x.count '('

/-- What comes first in a well-nested text is well nested. -/
lemma IsWellNested.of_append {x y : Text} (h : IsWellNested (x ++ y)) : IsWellNested x := by
  refine ⟨?_, ?_⟩
  · rintro x' opener s y' rfl
    exact h.strings x' opener s (y' ++ y) (by simp)
  · rintro x' y' rfl
    exact h.lists x' (y' ++ y) (List.append_assoc _ _ _)

/-- A character changes the number of open lists by the parentheses that it is, unless it closes what was
not open. -/
lemma openAfter_add_count {depth : Nat} {c : Char} (h : c = ')' → 0 < depth) :
    openAfter none depth c + [c].count ')' = depth + [c].count '(' := by
  by_cases hopening : c = '('
  · subst hopening
    rfl
  · by_cases hclosing : c = ')'
    · subst hclosing
      exact Nat.sub_add_cancel (h rfl)
    · rw [Expression.openAfter_other fun _ => ⟨hopening, hclosing⟩, List.count_singleton,
        List.count_singleton, beq_false_of_ne hopening, beq_false_of_ne hclosing]

/-- The parentheses of a text that ends with a string stand before or inside the string. -/
lemma count_quoted {x s : Text} {opener c : Char} (hopener : isQuote opener = true)
    (hc : isParenthesis c = true) :
    (x ++ opener :: (s ++ [opener])).count c = x.count c + s.count c := by
  have hne : opener ≠ c := by
    rintro rfl
    simp only [isParenthesis, Bool.or_eq_true, beq_iff_eq] at hc
    exact hc.elim (Text.ne_parenthesis_of_isQuote hopener).1 (Text.ne_parenthesis_of_isQuote hopener).2
  rw [List.count_append, List.count_cons_of_ne hne, List.count_append, List.count_singleton,
    beq_false_of_ne hne, if_neg Bool.false_ne_true, Nat.add_zero]

/-- **Outside strings both counts agree** in a well-nested text. -/
lemma IsWellNested.count_eq {x : Text} (h : IsWellNested x) (hclosed : quoteOver none x = none) :
    x.count '(' = x.count ')' + openLists none 0 x := by
  -- on the length: a string at the end is taken away at once
  induction hlength : x.length using Nat.strong_induction_on generalizing x with
  | _ n ih =>
      subst hlength
      obtain rfl | ⟨x, c, rfl⟩ := List.eq_nil_or_concat' x
      · rfl
      · rw [Text.quoteOver_append] at hclosed
        cases hx : quoteOver none x with
        | none =>
            have hrest := ih x.length (by simp) h.of_append hx rfl
            have hlists := h.lists (x ++ [c]) [] (by simp) (by rw [Text.quoteOver_append]; exact hclosed)
            rw [List.count_append, List.count_append] at hlists ⊢
            -- a `)` closes what is open, since it is no more than the `(` before it
            have hstep : openAfter none (openLists none 0 x) c + [c].count ')'
                = openLists none 0 x + [c].count '(' := by
              refine openAfter_add_count ?_
              rintro rfl
              have hone : [')'].count ')' = 1 ∧ [')'].count '(' = 0 := by decide
              omega
            rw [Expression.openLists_append, hx, Expression.openLists_cons, Expression.openLists_nil]
            omega
        | some opener =>
            obtain ⟨x, s, rfl, hx', hopener, hs⟩ := Text.exists_string_of_quoteOver_eq_some hx
            obtain rfl : c = opener := by
              by_contra hc
              rw [hx] at hclosed
              simp [quoteAfter, hc] at hclosed
            have hassoc : x ++ c :: s ++ [c] = x ++ c :: (s ++ [c]) := by simp
            have hrest := ih x.length (by simp) h.of_append.of_append hx' rfl
            have hstring := h.strings x c s [] hassoc hx' hopener hs
            rw [hassoc, count_quoted hopener rfl, count_quoted hopener rfl, openLists_quoted hx' hopener hs]
            omega

/-- **Well nested are the texts on which the two counts agree** wherever no string is open. -/
theorem isWellNested_iff {t : Text} : IsWellNested t ↔
    ∀ x ∈ t.inits, quoteOver none x = none → x.count '(' = x.count ')' + openLists none 0 x := by
  constructor
  · intro h x hx hclosed
    obtain ⟨y, rfl⟩ := (List.mem_inits _ _).mp hx
    exact h.of_append.count_eq hclosed
  · intro h
    have hcount : ∀ x y, t = x ++ y → quoteOver none x = none →
        x.count '(' = x.count ')' + openLists none 0 x :=
      fun x y ht hclosed => h x ((List.mem_inits _ _).mpr ⟨y, ht.symm⟩) hclosed
    refine ⟨fun x opener s y ht hx hopener hs => ?_, fun x y ht hx => ?_⟩
    · have hclosed : quoteOver none (x ++ opener :: (s ++ [opener])) = none := by
        rw [Text.quoteOver_append, hx, Text.quoteOver_quoted hopener hs]
      have hbefore := hcount x _ ht hx
      have hafter := hcount (x ++ opener :: (s ++ [opener])) y (by simp [ht]) hclosed
      rw [count_quoted hopener rfl, count_quoted hopener rfl, openLists_quoted hx hopener hs] at hafter
      omega
    · rw [hcount x y ht hx]
      exact Nat.le_add_right _ _

instance (t : Text) : Decidable (IsWellNested t) :=
  decidable_of_iff _ isWellNested_iff.symm

/-! ## What passes -/

/-- **In a well-nested text that passes, every string starts in a list** that is closed later. -/
lemma isInList_of_passes {t x y : Text} {c : Char} (hparentheses : parenthesesFault t = none)
    (hquotes : quotesFault t = none) (hnested : IsWellNested t) (ht : t = x ++ c :: y)
    (hx : quoteOver none x = none) (hc : isQuote c = true) : IsInList x (c :: y) := by
  obtain ⟨style, honly, heven, houtside⟩ := exists_style_of_quotesFault_eq_none hquotes
  have hclosed : quoteOver none t = none := by rw [quoteOver_of_style honly, if_pos heven]
  have hbalanced := (parenthesesFault_eq_none_iff.mp hparentheses).2.1
  have hall := hnested.count_eq hclosed
  subst ht
  obtain rfl : c = style.mark := honly c (by simp) hc
  have hbefore := hnested.of_append.count_eq hx
  have hlt := count_lt_of_hasQuoteOutside hc houtside
  refine ⟨by omega, style.mark :: y, [], (List.append_nil _).symm, by omega⟩

/-- **Where the quotes of an expression that passes stand.**  Let the standard checks accept an expression.
Each quote of its trimmed text stands strictly inside the span of an argument list exactly when each one
that opens a string stands in a list that is closed later.  This is so when the text is well nested. -/
theorem quotes_inside_spans {expression : Text}
    (h : firstShapeFault ShapeCheck.standard expression = none) :
    (QuotesInLists expression.trim ↔ ∀ x c y, expression.trim = x ++ c :: y →
        quoteOver none x = none → isQuote c = true → IsInList x (c :: y)) ∧
      (IsWellNested expression.trim → QuotesInLists expression.trim) := by
  obtain ⟨hparentheses, hquotes, -⟩ := firstShapeFault_standard_eq_none_iff.mp h
  exact ⟨quotesInLists_iff, fun hnested => quotesInLists_iff.mpr fun x c y ht hx hc =>
    isInList_of_passes hparentheses hquotes hnested ht hx hc⟩

/-- Parentheses in a string do no harm when they are paired. -/
theorem quotes_inside_spans_paired :
    firstShapeFault ShapeCheck.standard "contains('f(x)') && endsWith(') && (')".toList = none ∧
      IsWellNested (Text.trim "contains('f(x)') && endsWith(') && (')".toList) ∧
      QuotesInLists (Text.trim "contains('f(x)') && endsWith(') && (')".toList) := by
  have h : firstShapeFault ShapeCheck.standard "contains('f(x)') && endsWith(') && (')".toList
      = none := by decide
  have hnested : IsWellNested (Text.trim "contains('f(x)') && endsWith(') && (')".toList) := by decide
  exact ⟨h, hnested, (quotes_inside_spans h).2 hnested⟩

/-- **Quotes in no list pass the standard checks.**  In the first expression the `(` in a string keeps the
count of the check up, and `'x'` stands between two lists.  In the second a `)` closes what was not open,
so that the count of the check is balanced although the list with `'x'` is never closed. -/
theorem passes_with_quotes_outside :
    firstShapeFault ShapeCheck.standard "contains('(') && 'x' && contains(')')".toList = none ∧
      ¬ QuotesInLists (Text.trim "contains('(') && 'x' && contains(')')".toList) ∧
      firstShapeFault ShapeCheck.standard "f()) && g(('x')".toList = none ∧
      ¬ QuotesInLists (Text.trim "f()) && g(('x')".toList) := by
  refine ⟨by decide, fun h => ?_, by decide, fun h => ?_⟩
  · obtain ⟨s, hs, hspan⟩ := h 17 '\x27' (by decide) (by decide)
    revert s
    decide
  · obtain ⟨s, hs, hspan⟩ := h 11 '\x27' (by decide) (by decide)
    revert s
    decide

end BranchPolicy
