import BranchPolicy.Proofs.Expression.Spread
import BranchPolicy.Shape.Parentheses
import BranchPolicy.Shape.Quotes

/-!
# What the checks of the parentheses and the quotes look at

Both checks pass over every character that is neither a parenthesis nor a quote, except for the two
ends of the text.  They therefore cannot tell two texts apart over which the same calls are spread.

* `isStructural` — the characters that the two checks look at.
* `parenthesesFault_congr`, `quotesFault_congr` — the checks depend on these characters, and the
  first of them on the two ends of the text.
* `parenthesesFault_eq_none_iff` — what a text that passes the check of the parentheses is like.
* `quotesFault_eq_none`, `exists_style_of_quotesFault_eq_none` — a text passes the check of the quotes
  when it is of one quote style, its quotes come in pairs and none stands outside argument lists.
* `quoteOver_of_style` — in a text of one style the number of quotes tells whether one is open.
* **`parenthesesFault_spread`, `quotesFault_spread`** — spreading the same calls differently makes no
  difference to the checks.
-/

namespace BranchPolicy

open Expression (Spread)
open Text (isQuote isBlankChar singleQuote doubleQuote quoteAfter quoteOver)

/-- Whether a character is a parenthesis or a quote. -/
def isStructural (c : Char) : Bool :=
  isParenthesis c || isQuote c

lemma isParenthesis_of_blank_or_mark {c : Char}
    (h : isBlankChar c = true ∨ isConnectiveMark c = true) : isParenthesis c = false := by
  rcases h with h | h
  · have hopening : c ≠ '(' := Text.ne_of_isBlankChar h (by decide)
    have hclosing : c ≠ ')' := Text.ne_of_isBlankChar h (by decide)
    simp [isParenthesis, hopening, hclosing]
  · obtain ⟨k, rfl⟩ := isConnectiveMark_iff.mp h
    cases k <;> decide

lemma isStructural_of_blank_or_mark {c : Char}
    (h : isBlankChar c = true ∨ isConnectiveMark c = true) : isStructural c = false := by
  have hquote : isQuote c = false := by
    rcases h with h | h
    · exact Text.isQuote_of_isBlankChar h
    · exact isQuote_of_isConnectiveMark h
  simp [isStructural, isParenthesis_of_blank_or_mark h, hquote]

/-- A chain of conditions finds no fault when the first does not hold and the rest finds none. -/
lemma ite_some_eq_none_iff {α : Type} {p : Prop} [Decidable p] {a : α} {x : Option α} :
    (if p then some a else x) = none ↔ ¬ p ∧ x = none := by
  by_cases h : p <;> simp [h]

/-! ## Through a filter -/

section Filter

variable {p : Char → Bool} {t t' : Text} {c : Char}

lemma count_filter_of_pos (hc : p c = true) : (t.filter p).count c = t.count c :=
  List.count_filter hc

lemma contains_filter_of_pos (hc : p c = true) : (t.filter p).contains c = t.contains c := by
  rw [Bool.eq_iff_iff, List.contains_iff_mem, List.contains_iff_mem, List.mem_filter]
  exact ⟨fun h => h.1, fun h => ⟨h, hc⟩⟩

lemma isEmpty_filter_eq_not_any : (t.filter p).isEmpty = !t.any p := by
  rw [Bool.eq_iff_iff]
  simp [List.filter_eq_nil_iff]

end Filter

/-! ## The parentheses -/

/-- **The check of the parentheses depends on the parentheses and the two ends.** -/
theorem parenthesesFault_congr {t t' : Text} (hfilter : t.filter isParenthesis = t'.filter isParenthesis)
    (hhead : t.head? = t'.head?) (hlast : t.getLast? = t'.getLast?) :
    parenthesesFault t = parenthesesFault t' := by
  have hany : t.any isParenthesis = t'.any isParenthesis := by
    have h := congrArg List.isEmpty hfilter
    rw [isEmpty_filter_eq_not_any, isEmpty_filter_eq_not_any] at h
    exact Bool.not_inj h
  have hcount : ∀ c, isParenthesis c = true → t.count c = t'.count c := by
    intro c hc
    rw [← count_filter_of_pos (t := t) hc, hfilter, count_filter_of_pos hc]
  have hfind : t.find? isParenthesis = t'.find? isParenthesis := by
    rw [← List.head?_filter, ← List.head?_filter, hfilter]
  rw [parenthesesFault, parenthesesFault, hany, hhead, hlast, hcount '(' rfl, hcount ')' rfl, hfind]

/-- **A text passes the check of the parentheses** when the first of them opens, there are as many of the
one kind as of the other, none stands in front and no opening one at the end. -/
theorem parenthesesFault_eq_none_iff {t : Text} :
    parenthesesFault t = none ↔
      t.find? isParenthesis = some '(' ∧ t.count '(' = t.count ')' ∧
        (∀ c ∈ t.head?, isParenthesis c = false) ∧ t.getLast? ≠ some '(' := by
  have hhead : (∀ c ∈ t.head?, isParenthesis c = false) ↔ ¬ t.head?.any isParenthesis = true := by
    cases t.head? <;> simp
  have hfirst : t.find? isParenthesis = some '(' ↔
      t.any isParenthesis = true ∧ t.find? isParenthesis ≠ some ')' := by
    cases hfind : t.find? isParenthesis with
    | none =>
        rw [List.find?_eq_none] at hfind
        simpa using hfind
    | some c =>
        have hany : t.any isParenthesis = true :=
          List.any_eq_true.mpr ⟨c, List.mem_of_find?_eq_some hfind, List.find?_some hfind⟩
        have hc : c = '(' ∨ c = ')' := by
          simpa [isParenthesis] using List.find?_some hfind
        rcases hc with rfl | rfl <;> simp [hany]
  simp only [parenthesesFault, ite_some_eq_none_iff, Bool.not_eq_true', Bool.not_eq_false,
    beq_iff_eq, hfirst, hhead]
  constructor
  · rintro ⟨hany, hnot, hlast, hless, hmore, hopens, -⟩
    exact ⟨⟨hany, hopens⟩, by omega, hnot, hlast⟩
  · rintro ⟨⟨hany, hopens⟩, hcount, hnot, hlast⟩
    exact ⟨hany, hnot, hlast, by omega, by omega, hopens, trivial⟩

/-! ## The quotes -/

/-- A quote stands outside all lists or not, whatever stands between parentheses and quotes. -/
lemma hasQuoteOutside_filter {quote : Char} (hquote : isQuote quote = true) (depth : Int)
    (t : Text) : hasQuoteOutside quote depth (t.filter isStructural) = hasQuoteOutside quote depth t := by
  induction t generalizing depth with
  | nil => rfl
  | cons c t ih =>
      by_cases hc : isStructural c = true
      · rw [List.filter_cons_of_pos hc]
        simp only [hasQuoteOutside, ih]
      · have hopening : c ≠ '(' := by
          rintro rfl
          exact hc rfl
        have hclosing : c ≠ ')' := by
          rintro rfl
          exact hc rfl
        have hother : c ≠ quote := by
          rintro rfl
          exact hc (by simp [isStructural, hquote])
        rw [List.filter_cons_of_neg hc, hasQuoteOutside, if_neg (by simp [hopening]),
          if_neg (by simp [hclosing]), ih]
        simp [hother]

lemma Quote.isQuote_mark (style : Quote) : isQuote style.mark = true := by
  cases style <;> decide

/-- **The check of the quotes depends on the parentheses and the quotes.** -/
theorem quotesFault_congr {t t' : Text} (hfilter : t.filter isStructural = t'.filter isStructural) :
    quotesFault t = quotesFault t' := by
  have hkept : ∀ style : Quote, isStructural style.mark = true := by
    intro style
    simp [isStructural, style.isQuote_mark]
  have hcontains : ∀ style : Quote, t.contains style.mark = t'.contains style.mark := by
    intro style
    rw [← contains_filter_of_pos (t := t) (hkept style), hfilter, contains_filter_of_pos (hkept style)]
  have hstyle : ∀ style, quoteStyleFault style t = quoteStyleFault style t' := by
    intro style
    rw [quoteStyleFault, quoteStyleFault, ← count_filter_of_pos (t := t) (hkept style), hfilter,
      count_filter_of_pos (hkept style), ← hasQuoteOutside_filter style.isQuote_mark 0 t, hfilter,
      hasQuoteOutside_filter style.isQuote_mark]
  have hsingle := hcontains .single
  have hdouble := hcontains .double
  simp only [Quote.mark] at hsingle hdouble
  rw [quotesFault, quotesFault, hsingle, hdouble, hstyle .single, hstyle .double]

/-- **A text of one quote style passes the check of the quotes** when its quotes come in pairs and
none stands outside argument lists. -/
theorem quotesFault_eq_none {style : Quote} {t : Text}
    (honly : ∀ c ∈ t, isQuote c = true → c = style.mark) (hcount : t.count style.mark % 2 = 0)
    (houtside : hasQuoteOutside style.mark 0 t = false) : quotesFault t = none := by
  have hstyle : quoteStyleFault style t = none := by
    rw [quoteStyleFault, if_neg (by omega), if_neg (by simp [houtside])]
  have hnot : ∀ other : Quote, other ≠ style → t.contains other.mark = false := by
    intro other hother
    rw [List.contains_eq_mem, decide_eq_false_iff_not]
    intro hmem
    have hmark := honly _ hmem other.isQuote_mark
    revert hother hmark
    cases other <;> cases style <;> decide
  cases style with
  | single =>
      have hdouble : t.contains doubleQuote = false := hnot .double (by decide)
      rw [quotesFault, hdouble]
      cases t.contains singleQuote with
      | true => exact hstyle
      | false => rfl
  | double =>
      have hsingle : t.contains singleQuote = false := hnot .single (by decide)
      rw [quotesFault, hsingle]
      cases t.contains doubleQuote with
      | true => exact hstyle
      | false => rfl

/-- In a text of one quote style a string is open exactly when its quotes do not come in pairs. -/
lemma quoteOver_of_style {style : Quote} {t : Text} (honly : ∀ c ∈ t, isQuote c = true → c = style.mark) :
    quoteOver none t = if t.count style.mark % 2 = 0 then none else some style.mark := by
  induction t using List.reverseRecOn with
  | nil => rfl
  | append_singleton t c ih =>
      have hrest := ih fun d hd => honly d (List.mem_append_left _ hd)
      rw [Text.quoteOver_append, hrest, List.count_append]
      by_cases hc : c = style.mark
      · subst hc
        rw [List.count_singleton_self]
        by_cases heven : t.count style.mark % 2 = 0
        · rw [if_pos heven, if_neg (by omega)]
          simp [quoteAfter, style.isQuote_mark]
        · rw [if_neg heven, if_pos (by omega)]
          simp [quoteAfter]
      · have hquote : isQuote c = false := by
          rw [Bool.eq_false_iff]
          exact fun hquote => hc (honly c (by simp) hquote)
        have hstate : Text.IsQuoteState
            (if t.count style.mark % 2 = 0 then none else some style.mark) := by
          split <;> simp [Text.IsQuoteState, style.isQuote_mark]
        rw [Text.quoteOver_cons, Text.quoteOver_nil, Text.quoteAfter_of_not_quote hstate hquote,
          List.count_singleton, beq_false_of_ne hc, if_neg Bool.false_ne_true, Nat.add_zero]

lemma hasQuoteOutside_of_not_mem {quote : Char} {t : Text} (ht : quote ∉ t) (depth : Int) :
    hasQuoteOutside quote depth t = false := by
  induction t generalizing depth with
  | nil => rfl
  | cons c t ih =>
      simp only [List.mem_cons, not_or] at ht
      simp [hasQuoteOutside, ih ht.2, Ne.symm ht.1]

/-- Before a quote more parentheses have opened than closed when none stands outside. -/
lemma count_lt_of_hasQuoteOutside {quote : Char} (hquote : isQuote quote = true) {depth : Int}
    {x y : Text} (h : hasQuoteOutside quote depth (x ++ quote :: y) = false) :
    x.count ')' < depth + x.count '(' := by
  have hparen := Text.ne_parenthesis_of_isQuote hquote
  induction x generalizing depth with
  | nil =>
      rw [List.nil_append, hasQuoteOutside, if_neg (by simp [hparen.1]), if_neg (by simp [hparen.2])] at h
      simp only [beq_self_eq_true, Bool.true_and, Bool.or_eq_false_iff, decide_eq_false_iff_not] at h
      simpa using h.1
  | cons c x ih =>
      rw [List.cons_append, hasQuoteOutside] at h
      by_cases hopening : c = '('
      · subst hopening
        have hrest := ih (by simpa using h)
        rw [List.count_cons_self, List.count_cons_of_ne (by decide)]
        push_cast
        omega
      · by_cases hclosing : c = ')'
        · subst hclosing
          have hrest := ih (by simpa using h)
          rw [List.count_cons_self, List.count_cons_of_ne (by decide)]
          push_cast
          omega
        · rw [if_neg (by simpa using hopening), if_neg (by simpa using hclosing), Bool.or_eq_false_iff] at h
          rw [List.count_cons_of_ne hclosing, List.count_cons_of_ne hopening]
          exact ih h.2

/-- **What a text that passes the check of the quotes is like**: it is of one quote style, its quotes come
in pairs, and none stands outside argument lists. -/
theorem exists_style_of_quotesFault_eq_none {t : Text} (h : quotesFault t = none) :
    ∃ style : Quote, (∀ c ∈ t, isQuote c = true → c = style.mark) ∧ t.count style.mark % 2 = 0 ∧
      hasQuoteOutside style.mark 0 t = false := by
  have hone : ∀ style other : Quote, style ≠ other → t.contains other.mark = false →
      quoteStyleFault style t = none → ∃ style : Quote,
        (∀ c ∈ t, isQuote c = true → c = style.mark) ∧ t.count style.mark % 2 = 0 ∧
          hasQuoteOutside style.mark 0 t = false := by
    intro style other hne hother hfault
    simp only [quoteStyleFault, ite_some_eq_none_iff, Decidable.not_not, Bool.not_eq_true] at hfault
    refine ⟨style, fun c hc hquote => ?_, hfault.1, hfault.2.1⟩
    have hc' : c = style.mark ∨ c = other.mark := by
      simp only [isQuote, Bool.or_eq_true, beq_iff_eq] at hquote
      cases style with
      | single =>
          cases other with
          | single => exact absurd rfl hne
          | double => exact hquote
      | double =>
          cases other with
          | single => exact hquote.symm
          | double => exact absurd rfl hne
    refine hc'.resolve_right ?_
    rintro rfl
    rw [List.contains_iff_mem.mpr hc] at hother
    exact Bool.noConfusion hother
  rw [quotesFault] at h
  split at h
  · next hsingle hdouble =>
      -- without quotes either style will do
      have hmem : Quote.single.mark ∉ t := fun hmem => by
        rw [Quote.mark, ← List.contains_iff_mem, hsingle] at hmem
        exact Bool.noConfusion hmem
      refine hone .single .double (by decide) hdouble ?_
      rw [quoteStyleFault, List.count_eq_zero.mpr hmem, hasQuoteOutside_of_not_mem hmem]
      rfl
  · exact absurd h (by simp)
  · next hsingle hdouble => exact hone .single .double (by decide) hdouble h
  · next hsingle hdouble => exact hone .double .single (by decide) hsingle h

/-! ## Spread calls -/

section Spread

variable {cs : List Text} {t t' : Text}

/-- **Spreading the same calls differently makes no difference to the check of the parentheses.** -/
theorem parenthesesFault_spread (hne : ∀ c ∈ cs, c ≠ []) (h : Spread cs t) (h' : Spread cs t') :
    parenthesesFault t = parenthesesFault t' := by
  refine parenthesesFault_congr ?_ ?_ ?_
  · rw [h.filter_eq fun c => isParenthesis_of_blank_or_mark,
      h'.filter_eq fun c => isParenthesis_of_blank_or_mark]
  · rw [h.head?_eq hne, h'.head?_eq hne]
  · rw [h.getLast?_eq hne, h'.getLast?_eq hne]

/-- **Spreading the same calls differently makes no difference to the check of the quotes.** -/
theorem quotesFault_spread (h : Spread cs t) (h' : Spread cs t') : quotesFault t = quotesFault t' := by
  refine quotesFault_congr ?_
  rw [h.filter_eq fun c => isStructural_of_blank_or_mark,
    h'.filter_eq fun c => isStructural_of_blank_or_mark]

end Spread

end BranchPolicy
