import BranchPolicy.Proofs.Expression.Call
import BranchPolicy.Proofs.Shape.Check

/-!
# Plain calls pass the standard checks

A plain call is a name and one argument list in which no parenthesis stands and the quotes, all of one
style, are closed.  Calls like these pass the checks however they are spread, with one exception: the
check for negative numbers looks at each list.

* `IsPlainCall` — the texts of plain calls in a quote style.
* `parenthesesFault_of_plain`, `quotesFault_of_plain`, `connectivesFault_of_plain` — three checks pass.
* `negativeNumbersFault_of_plain` — the fourth fails exactly when some list has a negative argument.
-/

namespace BranchPolicy

open Expression (Spread)
open Text (isQuote quoteAfter quoteOver)

/-- **The text of a plain call in a quote style**: a name without parentheses and quotes, and one
argument list that holds no parenthesis and no quote of another style and leaves no quote open. -/
inductive IsPlainCall (style : Quote) : Text → Prop
  | mk {name list : Text} (hne : name ≠ []) (hname : ∀ c ∈ name, isStructural c = false)
      (hlist : ∀ c ∈ list, isParenthesis c = false)
      (hstyle : ∀ c ∈ list, isQuote c = true → c = style.mark)
      (hclosed : quoteOver none list = none) : IsPlainCall style (name ++ '(' :: (list ++ [')']))

/-! ## Characters of plain calls -/

section Characters

variable {t : Text} {style : Quote}

lemma not_parenthesis_of_not_structural {c : Char} (hc : isStructural c = false) :
    isParenthesis c = false := by
  rw [isStructural, Bool.or_eq_false_iff] at hc
  exact hc.1

lemma not_quote_of_not_structural {c : Char} (hc : isStructural c = false) : isQuote c = false := by
  rw [isStructural, Bool.or_eq_false_iff] at hc
  exact hc.2

lemma ne_of_not_parenthesis {c : Char} (hc : isParenthesis c = false) : c ≠ '(' ∧ c ≠ ')' := by
  constructor
  · rintro rfl
    exact absurd hc (by decide)
  · rintro rfl
    exact absurd hc (by decide)

lemma filter_parenthesis_eq_nil (ht : ∀ c ∈ t, isParenthesis c = false) :
    t.filter isParenthesis = [] := by
  rw [List.filter_eq_nil_iff]
  intro c hc
  rw [ht c hc]
  exact Bool.false_ne_true

lemma IsPlainCall.filter_parenthesis {c : Text} (hc : IsPlainCall style c) :
    c.filter isParenthesis = ['(', ')'] := by
  obtain ⟨-, hname, hlist, -, -⟩ := hc
  rw [List.filter_append, List.filter_cons_of_pos (by decide), List.filter_append,
    filter_parenthesis_eq_nil fun c hc => not_parenthesis_of_not_structural (hname c hc),
    filter_parenthesis_eq_nil hlist]
  rfl

lemma IsPlainCall.ne_nil {c : Text} (hc : IsPlainCall style c) : c ≠ [] := by
  obtain ⟨hne, -, -, -, -⟩ := hc
  simp [hne]

lemma IsPlainCall.not_structural_of_head? {c : Text} (hc : IsPlainCall style c) {d : Char}
    (hd : d ∈ c.head?) : isStructural d = false := by
  obtain ⟨hne, hname, -, -, -⟩ := hc
  rw [List.head?_append_of_ne_nil _ hne] at hd
  exact hname d (List.mem_of_mem_head? hd)

lemma IsPlainCall.getLast?_eq {c : Text} (hc : IsPlainCall style c) : c.getLast? = some ')' := by
  obtain ⟨-, -, -, -, -⟩ := hc
  exact getLast?_call _ _

/-- The quotes of one style come in pairs in a text that leaves none open. -/
lemma even_count_quote (hstyle : ∀ c ∈ t, isQuote c = true → c = style.mark)
    (hclosed : quoteOver none t = none) : t.count style.mark % 2 = 0 := by
  by_contra hodd
  rw [quoteOver_of_style hstyle, if_neg hodd] at hclosed
  exact Option.some_ne_none _ hclosed

end Characters

section Checks

variable {style : Quote} {cs : List Text} {t : Text}

/-! ## The parentheses -/

lemma filter_parenthesis_flatten (hcs : ∀ c ∈ cs, IsPlainCall style c) :
    cs.flatten.filter isParenthesis = (List.replicate cs.length ['(', ')']).flatten := by
  induction cs with
  | nil => rfl
  | cons c cs ih =>
      rw [List.flatten_cons, List.filter_append, (hcs c List.mem_cons_self).filter_parenthesis,
        ih fun d hd => hcs d (List.mem_cons_of_mem _ hd)]
      rfl

/-- **Plain calls pass the check of the parentheses.** -/
theorem parenthesesFault_of_plain (h : Spread cs t) (hcs : ∀ c ∈ cs, IsPlainCall style c) :
    parenthesesFault t = none := by
  have hne : ∀ c ∈ cs, c ≠ [] := fun c hc => (hcs c hc).ne_nil
  have hfilter : t.filter isParenthesis = (List.replicate cs.length ['(', ')']).flatten := by
    rw [h.filter_eq fun c => isParenthesis_of_blank_or_mark, filter_parenthesis_flatten hcs]
  have hcount : ∀ d, isParenthesis d = true →
      t.count d = (List.replicate cs.length ['(', ')']).flatten.count d := by
    intro d hd
    rw [← count_filter_of_pos (t := t) hd, hfilter]
  refine parenthesesFault_eq_none_iff.mpr ⟨?_, ?_, ?_, ?_⟩
  · obtain ⟨c, cs', rfl⟩ := List.exists_cons_of_ne_nil (ne_nil_of_spread h)
    rw [← List.head?_filter, hfilter]
    rfl
  · rw [hcount _ rfl, hcount _ rfl, List.count_flatten, List.count_flatten]
    simp
  · obtain ⟨c, hc, hhead⟩ := h.exists_head?_eq hne
    intro d hd
    rw [hhead] at hd
    exact not_parenthesis_of_not_structural ((hcs c hc).not_structural_of_head? hd)
  · obtain ⟨c, hc, hlast⟩ := h.exists_getLast?_eq hne
    rw [hlast, (hcs c hc).getLast?_eq]
    simp

/-! ## The quotes -/

lemma hasQuoteOutside_append_of_not_structural {quote : Char} (hquote : isQuote quote = true)
    {x : Text} (hx : ∀ c ∈ x, isStructural c = false) (depth : Int) (y : Text) :
    hasQuoteOutside quote depth (x ++ y) = hasQuoteOutside quote depth y := by
  rw [← hasQuoteOutside_filter hquote, ← hasQuoteOutside_filter hquote depth y, List.filter_append]
  have hnil : x.filter isStructural = [] := by
    rw [List.filter_eq_nil_iff]
    intro c hc
    rw [hx c hc]
    exact Bool.false_ne_true
  rw [hnil, List.nil_append]

/-- Inside a list no quote stands outside. -/
lemma hasQuoteOutside_append_of_not_parenthesis (quote : Char) {x : Text}
    (hx : ∀ c ∈ x, isParenthesis c = false) {depth : Int} (hdepth : 0 < depth) (y : Text) :
    hasQuoteOutside quote depth (x ++ y) = hasQuoteOutside quote depth y := by
  induction x with
  | nil => rfl
  | cons c x ih =>
      obtain ⟨hopening, hclosing⟩ := ne_of_not_parenthesis (hx c List.mem_cons_self)
      have hout : ¬ depth ≤ 0 := by omega
      rw [List.cons_append, hasQuoteOutside, if_neg (by simp [hopening]), if_neg (by simp [hclosing]),
        ih fun d hd => hx d (List.mem_cons_of_mem _ hd)]
      simp [hout]

/-- A plain call in front of a text does not change whether a quote stands outside its lists. -/
lemma IsPlainCall.hasQuoteOutside_append {c : Text} (hc : IsPlainCall style c) (y : Text) :
    hasQuoteOutside style.mark 0 (c ++ y) = hasQuoteOutside style.mark 0 y := by
  obtain ⟨-, hname, hlist, -, -⟩ := hc
  rename_i name list
  have hassoc : name ++ '(' :: (list ++ [')']) ++ y = name ++ ('(' :: (list ++ ')' :: y)) := by simp
  rw [hassoc, hasQuoteOutside_append_of_not_structural style.isQuote_mark hname]
  have hopen : hasQuoteOutside style.mark 0 ('(' :: (list ++ ')' :: y))
      = hasQuoteOutside style.mark 1 (list ++ ')' :: y) := rfl
  rw [hopen, hasQuoteOutside_append_of_not_parenthesis style.mark hlist (by decide)]
  rfl

lemma hasQuoteOutside_of_plain (h : Spread cs t) (hcs : ∀ c ∈ cs, IsPlainCall style c) :
    hasQuoteOutside style.mark 0 t = false := by
  induction h with
  | last c =>
      have hone := (hcs c List.mem_cons_self).hasQuoteOutside_append []
      rw [List.append_nil] at hone
      rw [hone]
      rfl
  | cons hclosed hgap hrest ih =>
      rw [(hcs _ List.mem_cons_self).hasQuoteOutside_append,
        hasQuoteOutside_append_of_not_structural style.isQuote_mark fun d hd =>
          isStructural_of_blank_or_mark (hgap.loose.blank_or_mark hd)]
      exact ih fun d hd => hcs d (List.mem_cons_of_mem _ hd)

/-- The quotes of a call stand in its list. -/
lemma eq_mark_of_mem_call {x a : Text} (hx : ∀ c ∈ x, isStructural c = false)
    (ha : ∀ c ∈ a, isQuote c = true → c = style.mark) :
    ∀ c ∈ x ++ '(' :: (a ++ [')']), isQuote c = true → c = style.mark := by
  intro c hc hquote
  simp only [List.mem_append, List.mem_cons, List.not_mem_nil, or_false] at hc
  rcases hc with hc | rfl | hc | rfl
  · rw [not_quote_of_not_structural (hx c hc)] at hquote
    exact Bool.noConfusion hquote
  · exact absurd hquote (by decide)
  · exact ha c hc hquote
  · exact absurd hquote (by decide)

lemma IsPlainCall.eq_mark_of_isQuote {c : Text} (hc : IsPlainCall style c) {d : Char} (hd : d ∈ c)
    (hquote : isQuote d = true) : d = style.mark := by
  obtain ⟨-, hname, -, hstyle, -⟩ := hc
  exact eq_mark_of_mem_call hname hstyle d hd hquote

lemma IsPlainCall.quoteOver_eq_none {c : Text} (hc : IsPlainCall style c) :
    quoteOver none c = none := by
  obtain ⟨-, hname, -, -, hclosed⟩ := hc
  refine quoteOver_call (Text.quoteOver_of_not_quote Text.isQuoteState_none fun c hc => ?_) hclosed
  exact not_quote_of_not_structural (hname c hc)

/-- **Plain calls of one quote style pass the check of the quotes.** -/
theorem quotesFault_of_plain (h : Spread cs t) (hcs : ∀ c ∈ cs, IsPlainCall style c) :
    quotesFault t = none := by
  have honly : ∀ c ∈ t, isQuote c = true → c = style.mark := by
    intro c hc hquote
    have hmem : c ∈ t.filter isQuote := List.mem_filter.mpr ⟨hc, hquote⟩
    rw [h.filter_eq fun c hc => not_quote_of_not_structural (isStructural_of_blank_or_mark hc)]
      at hmem
    obtain ⟨d, hd, hcd⟩ := List.mem_flatten.mp (List.mem_of_mem_filter hmem)
    exact (hcs d hd).eq_mark_of_isQuote hcd hquote
  have hclosed : quoteOver none t = none := by
    clear honly
    induction h with
    | last c => exact (hcs c List.mem_cons_self).quoteOver_eq_none
    | cons hclosed hgap hrest ih =>
        rw [Text.quoteOver_append, hclosed, Text.quoteOver_append,
          Text.quoteOver_of_not_quote Text.isQuoteState_none fun d hd => hgap.loose.not_quote hd]
        exact ih fun d hd => hcs d (List.mem_cons_of_mem _ hd)
  exact quotesFault_eq_none honly (even_count_quote honly hclosed) (hasQuoteOutside_of_plain h hcs)

/-! ## The connectives -/

lemma listsSeparated_of_plain (h : Spread cs t) (hcs : ∀ c ∈ cs, IsPlainCall style c) :
    listsSeparated true t = true := by
  have hcall : ∀ c ∈ cs, ∀ s, s = SeparationState.inside ∨ s = .joined →
      s.after c = .closed none := by
    intro c hc s hs
    obtain ⟨-, hname, hlist, -, -⟩ := hcs c hc
    have hname' := fun c hc => ne_of_not_parenthesis (not_parenthesis_of_not_structural (hname c hc))
    exact SeparationState.after_call hs
      ⟨fun hmem => (hname' _ hmem).1 rfl, fun hmem => (hname' _ hmem).2 rfl⟩
      fun hmem => (ne_of_not_parenthesis (hlist _ hmem)).2 rfl
  have hclosed : ∀ s, s = SeparationState.inside ∨ s = .joined → s.after t = .closed none := by
    clear hcs
    induction h with
    | last c => exact hcall c List.mem_cons_self
    | cons hquote hgap hrest ih =>
        intro s hs
        rw [SeparationState.after_append, SeparationState.after_append,
          hcall _ List.mem_cons_self s hs, SeparationState.after_gap hgap]
        exact ih (fun d hd => hcall d (List.mem_cons_of_mem _ hd)) _ (Or.inr rfl)
  rw [listsSeparated_iff, hclosed .inside (Or.inl rfl)]
  simp

/-- **Plain calls pass the check of the connectives**, if every run of marks is a connective and no mark
stands at an end. -/
theorem connectivesFault_of_plain (h : Spread cs t) (hcs : ∀ c ∈ cs, IsPlainCall style c)
    (htrim : t.trim = t) (hhead : ∀ c ∈ t.head?, isConnectiveMark c = false)
    (hlast : ∀ c ∈ t.getLast?, isConnectiveMark c = false)
    (hruns : (RunState.apart.after t).isComplete) : connectivesFault t = none := by
  cases hany : t.any isConnectiveMark with
  | true =>
      exact (connectivesFault_eq_none_iff htrim hany).mpr
        ⟨forall_isAtEdge_iff.mpr ⟨hhead, hlast⟩, hruns, listsSeparated_of_plain h hcs⟩
  | false =>
      -- without marks there is only one call, and it has only one list
      refine (connectivesFault_eq_none_iff_of_not_mark htrim hany).mpr ?_
      cases h with
      | last =>
          have hcount : t.count '(' = 1 := by
            rw [← count_filter_of_pos (p := isParenthesis) (t := t) rfl,
              (hcs t List.mem_cons_self).filter_parenthesis]
            rfl
          simp [hasManyLists, hcount]
      | cons hclosed hgap hrest =>
          rw [any_mark_of_gap hgap] at hany
          exact Bool.noConfusion hany

/-! ## The negative numbers -/

lemma IsPlainCall.after_negativeState {c : Text} (hc : IsPlainCall style c) {s : NegativeState}
    (hs : s.quote = none) (hdepth : s.depth = 0) :
    (s.after c).quote = none ∧ (s.after c).depth = 0 ∧
      (s.after c).found = (s.found || hasNegative (Call.argumentList c)) := by
  obtain ⟨-, hname, hlist, -, hclosed⟩ := hc
  have hname' := fun c hc => ne_of_not_parenthesis (not_parenthesis_of_not_structural (hname c hc))
  have hskip := Text.quoteOver_of_not_quote Text.isQuoteState_none fun c hc =>
    not_quote_of_not_structural (hname c hc)
  rw [argumentList_call fun hmem => (hname' _ hmem).1 rfl]
  refine NegativeState.after_call hs hdepth (Text.freeOutside_of_forall fun c hc => ?_)
    (Text.freeOutside_of_forall hlist) hskip hclosed
  exact not_parenthesis_of_not_structural (hname c hc)

/-- **Plain calls fail the check for negative numbers exactly when some list has a negative
argument.** -/
theorem negativeNumbersFault_of_plain (h : Spread cs t) (hcs : ∀ c ∈ cs, IsPlainCall style c) :
    negativeNumbersFault t
      = if cs.any (fun c => hasNegative (Call.argumentList c)) then some .negativeNumber
        else none := by
  have hfound : ∀ s : NegativeState, s.quote = none → s.depth = 0 →
      (s.after t).found = (s.found || cs.any fun c => hasNegative (Call.argumentList c)) := by
    induction h with
    | last c =>
        intro s hs hdepth
        rw [((hcs c List.mem_cons_self).after_negativeState hs hdepth).2.2]
        simp
    | @cons c g t cs hclosed hgap hrest ih =>
        intro s hs hdepth
        obtain ⟨hquote, hzero, hcall⟩ := (hcs c List.mem_cons_self).after_negativeState hs hdepth
        have hafter := ih (fun d hd => hcs d (List.mem_cons_of_mem _ hd)) (s.after c).touch hquote hzero
        rw [NegativeState.after_append, NegativeState.after_append, NegativeState.after_gap hquote hgap,
          hafter, NegativeState.found_touch, hcall, List.any_cons, Bool.or_assoc]
  rw [negativeNumbersFault_eq, hfound {} rfl rfl]
  rfl

end Checks

end BranchPolicy
