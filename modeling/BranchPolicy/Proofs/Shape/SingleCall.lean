import BranchPolicy.Proofs.Shape.ListGaps
import BranchPolicy.Proofs.Shape.MinusSigns
import Mathlib.Data.List.Infix

/-!
# A single call with any strings

A well-written call can still fail the standard checks, because the first three of them count parentheses
and connective marks inside strings as well.  What these checks read of the argument list of a call is no more
than its strings in their quotes, so that the contents of the strings decide.

* `Argument.IsQuotable` — the arguments: strings without quotes, and texts such as digits.
* `SpacedCall.strings` — the contents of the strings of a call; `filter_listText`: nothing else is read.
* `parenthesesFault_call`, `quotesFault_call`, `connectivesFault_call` — the checks of a name and one list.
* `hasQuoteOutside_textOfStrings`, `hasGoodRuns_listText` — the list, string by string.
* `negativeNumbersFault_call` — the check for negative numbers, which skips strings, passes.
* **`passes_single_call_iff`** — the single calls that pass the standard checks.
* `fails_by_string_contents` — well-written calls that each of the three checks refuses.
-/

namespace BranchPolicy

open Text (isBlank isBlankChar isQuote quoteOver freeOutside)

/-! ## Strings of a call -/

/-- **The arguments of a well-written call**: a string without quotes, which may hold anything else, or a
text without reserved characters, commas and minus signs, for instance digits. -/
def Argument.IsQuotable : Argument → Prop
  | .string content => ∀ c ∈ content, isQuote c = false
  | .number text => ∀ c ∈ text, isReserved c = false ∧ c ≠ ',' ∧ c ≠ '-'

instance : DecidablePred Argument.IsQuotable
  | .string content =>
    decidable_of_iff (content.all (!isQuote ·) = true) (by simp [Argument.IsQuotable])
  | .number text =>
    decidable_of_iff (text.all (fun c => !isReserved c && c != ',' && c != '-') = true)
      (by simp [Argument.IsQuotable, and_assoc])

lemma Argument.IsQuotable.isDelimited {a : Argument} (ha : a.IsQuotable) : a.IsDelimited := by
  cases a with
  | string content => exact ha
  | number text => exact fun c hc => ⟨not_quote_of_not_reserved (ha c hc).1, (ha c hc).2.1⟩

/-- The content of an argument that is a string. -/
def Argument.content? : Argument → Option Text
  | .string content => some content
  | .number _ => none

/-- The contents of the strings of a call, in order. -/
def SpacedCall.strings (c : SpacedCall) : List Text :=
  c.arguments.filterMap (·.argument.content?)

/-- Strings in quotes of a style, one after another. -/
def textOfStrings (style : Quote) (strings : List Text) : Text :=
  strings.flatMap fun s => Argument.textIn style (.string s)

section Strings

variable {style : Quote} {c : SpacedCall} {p : Char → Bool}

lemma not_quote_of_mem_strings (hargs : ∀ a ∈ c.arguments, a.argument.IsQuotable) {s : Text}
    (hs : s ∈ c.strings) : ∀ d ∈ s, isQuote d = false := by
  obtain ⟨a, ha, hcontent⟩ := List.mem_filterMap.mp hs
  have hquotable := hargs a ha
  cases hargument : a.argument with
  | number text =>
      rw [hargument] at hcontent
      exact absurd hcontent (by simp [Argument.content?])
  | string content =>
      rw [hargument] at hcontent hquotable
      obtain rfl := Option.some.inj hcontent
      exact hquotable

lemma filter_eq_nil_of_isBlank (hp : ∀ d, p d = true → isReserved d = true) {b : Text}
    (hb : isBlank b = true) : b.filter p = [] := by
  rw [List.filter_eq_nil_iff]
  intro d hd hpd
  have hfree := not_isReserved_of_blank (Text.isBlank_iff.mp hb d hd)
  rw [hp d hpd] at hfree
  exact Bool.noConfusion hfree

/-- Of a printed argument a scan for reserved characters reads the string, if it is one. -/
lemma filter_print (hp : ∀ d, p d = true → isReserved d = true) {a : SpacedArgument}
    (ha : a.argument.IsQuotable) :
    (a.print style).filter p = (textOfStrings style a.argument.content?.toList).filter p := by
  rw [SpacedArgument.print, List.filter_append, List.filter_append, filter_eq_nil_of_isBlank hp a.before.2,
    filter_eq_nil_of_isBlank hp a.after.2, List.nil_append, List.append_nil]
  obtain ⟨before, argument, after⟩ := a
  cases argument with
  | string content => simp [textOfStrings, Argument.content?]
  | number text =>
      show text.filter p = []
      rw [List.filter_eq_nil_iff]
      intro d hd hpd
      have hfree := (ha d hd).1
      rw [hp d hpd] at hfree
      exact Bool.noConfusion hfree

lemma filter_intercalate (hp : p ',' = false) (ts : List Text) :
    ([','].intercalate ts).filter p = ts.flatten.filter p := by
  induction ts with
  | nil => rfl
  | cons t ts ih =>
      cases ts with
      | nil => simp
      | cons u ts =>
          rw [List.intercalate_cons_cons, List.filter_append, List.filter_append, ih]
          simp [hp]

/-- **Of a printed list a scan for reserved characters reads the strings in their quotes**, and nothing
else. -/
lemma filter_listText (hargs : ∀ a ∈ c.arguments, a.argument.IsQuotable)
    (hp : ∀ d, p d = true → isReserved d = true) :
    (c.listText style).filter p = (textOfStrings style c.strings).filter p := by
  have hcomma : p ',' = false := by
    rw [Bool.eq_false_iff]
    intro h
    exact absurd (hp ',' h) (by decide)
  have hjoin : ∀ as : List SpacedArgument, (∀ a ∈ as, a.argument.IsQuotable) →
      (as.map (·.print style)).flatten.filter p
        = (textOfStrings style (as.filterMap (·.argument.content?))).filter p := by
    intro as has
    induction as with
    | nil => rfl
    | cons a as ih =>
        have hfirst := @filter_print style p hp a (has a List.mem_cons_self)
        have hrest := ih fun b hb => has b (List.mem_cons_of_mem _ hb)
        rw [List.map_cons, List.flatten_cons, List.filter_append, hfirst, hrest, ← List.filter_append]
        cases hcontent : a.argument.content? <;> simp [textOfStrings, hcontent]
  by_cases hnil : c.arguments = []
  · rw [SpacedCall.listText_of_nil hnil, filter_eq_nil_of_isBlank hp c.inside.2, SpacedCall.strings, hnil]
    rfl
  · rw [SpacedCall.listText_of_ne_nil hnil, filter_intercalate hcomma, hjoin _ hargs]
    rfl

/-- Without the quotes only the contents are left. -/
lemma filter_textOfStrings (hmark : p style.mark = false) (strings : List Text) :
    (textOfStrings style strings).filter p = strings.flatten.filter p := by
  induction strings with
  | nil => rfl
  | cons s strings ih =>
      rw [textOfStrings, List.flatMap_cons, ← textOfStrings, List.filter_append, ih, Argument.textIn,
        List.flatten_cons, List.filter_append]
      simp [hmark]

end Strings

/-! ## A name and one list

The checks of the text of a call, of which the name and what stands between it and the list have no reserved
characters. -/

section Call

variable {style : Quote} {x a : Text}

lemma not_mem_of_isParenthesis (hx : ∀ c ∈ x, isReserved c = false) {d : Char}
    (hd : isParenthesis d = true) : d ∉ x := by
  intro hmem
  rw [not_parenthesis_of_not_structural (not_structural_of_not_reserved (hx d hmem))] at hd
  exact Bool.noConfusion hd

/-- The parentheses of a call are those of its list and the two around it. -/
lemma count_call (hx : ∀ c ∈ x, isReserved c = false) {d : Char} (hd : isParenthesis d = true) :
    (x ++ '(' :: (a ++ [')'])).count d = a.count d + 1 := by
  rw [List.count_append, List.count_eq_zero.mpr (not_mem_of_isParenthesis hx hd)]
  have hd' : d = '(' ∨ d = ')' := by simpa [isParenthesis] using hd
  rcases hd' with rfl | rfl <;> simp

/-- The check of the parentheses asks for as many of one kind as of the other in the list. -/
lemma parenthesesFault_call (hne : x ≠ []) (hx : ∀ c ∈ x, isReserved c = false) :
    parenthesesFault (x ++ '(' :: (a ++ [')'])) = none ↔ a.count '(' = a.count ')' := by
  have hparen : ∀ c ∈ x, isParenthesis c = false := fun c hc =>
    not_parenthesis_of_not_structural (not_structural_of_not_reserved (hx c hc))
  have hfind : (x ++ '(' :: (a ++ [')'])).find? isParenthesis = some '(' := by
    rw [← List.head?_filter, List.filter_append, filter_parenthesis_eq_nil hparen]
    rfl
  have hhead : ∀ c ∈ (x ++ '(' :: (a ++ [')'])).head?, isParenthesis c = false := by
    intro c hc
    rw [List.head?_append_of_ne_nil _ hne] at hc
    exact hparen c (List.mem_of_mem_head? hc)
  have hlast : (x ++ '(' :: (a ++ [')'])).getLast? ≠ some '(' := by
    rw [getLast?_call]
    decide
  rw [parenthesesFault_eq_none_iff, count_call hx rfl, count_call hx rfl, Nat.add_right_cancel_iff]
  exact ⟨fun h => h.2.1, fun h => ⟨hfind, h, hhead, hlast⟩⟩

/-- What comes after the last quote does not matter. -/
lemma hasQuoteOutside_append_of_not_mem {quote : Char} {y : Text} (hy : quote ∉ y) (depth : Int)
    (x : Text) : hasQuoteOutside quote depth (x ++ y) = hasQuoteOutside quote depth x := by
  induction x generalizing depth with
  | nil => exact hasQuoteOutside_of_not_mem hy depth
  | cons c x ih => simp only [List.cons_append, hasQuoteOutside, ih]

/-- The check of the quotes reads the list with one more parenthesis open. -/
lemma quotesFault_call (hx : ∀ c ∈ x, isReserved c = false)
    (hstyle : ∀ c ∈ a, isQuote c = true → c = style.mark) (hclosed : quoteOver none a = none) :
    quotesFault (x ++ '(' :: (a ++ [')'])) = none ↔ hasQuoteOutside style.mark 1 a = false := by
  have hstructural : ∀ c ∈ x, isStructural c = false := fun c hc =>
    not_structural_of_not_reserved (hx c hc)
  have hlist : hasQuoteOutside style.mark 0 (x ++ '(' :: (a ++ [')'])) = hasQuoteOutside style.mark 1 a := by
    rw [hasQuoteOutside_append_of_not_structural style.isQuote_mark hstructural]
    show hasQuoteOutside style.mark 1 (a ++ [')']) = hasQuoteOutside style.mark 1 a
    exact hasQuoteOutside_append_of_not_mem (by cases style <;> decide) 1 a
  constructor
  · intro h
    obtain ⟨other, honly, -, houtside⟩ := exists_style_of_quotesFault_eq_none h
    by_cases hmem : style.mark ∈ a
    · rw [← honly style.mark (by simp [hmem]) style.isQuote_mark, hlist] at houtside
      exact houtside
    · exact hasQuoteOutside_of_not_mem hmem 1
  · intro h
    have honly := eq_mark_of_mem_call hstructural hstyle
    have hname := Text.quoteOver_of_not_quote Text.isQuoteState_none fun c hc =>
      not_quote_of_not_reserved (hx c hc)
    have htext := quoteOver_call hname hclosed
    exact quotesFault_eq_none honly (even_count_quote honly htext) (hlist.trans h)

/-- The check of the connectives reads the list; without marks it counts its parentheses. -/
lemma connectivesFault_call (hne : x ≠ []) (hx : ∀ c ∈ x, isReserved c = false)
    (htrim : (x ++ '(' :: (a ++ [')'])).trim = x ++ '(' :: (a ++ [')'])) :
    connectivesFault (x ++ '(' :: (a ++ [')'])) = none ↔
      if a.any isConnectiveMark then HasGoodRuns a ∧ listsSeparated true a = true
      else a.count '(' = 0 ∨ a.count ')' = 0 := by
  have hmark : ∀ c ∈ x, isConnectiveMark c = false := fun c hc => not_mark_of_not_reserved (hx c hc)
  have hany : (x ++ '(' :: (a ++ [')'])).any isConnectiveMark = a.any isConnectiveMark := by
    have hname : x.any isConnectiveMark = false := List.any_eq_false.mpr fun c hc => by simp [hmark c hc]
    have hopening : isConnectiveMark '(' = false := by decide
    have hclosing : isConnectiveMark ')' = false := by decide
    simp [hname, hopening, hclosing]
  cases hmarks : a.any isConnectiveMark with
  | true =>
      have hends : ∀ k, isAtEdge k (x ++ '(' :: (a ++ [')'])) = false := by
        refine forall_isAtEdge_iff.mpr ⟨fun c hc => ?_, fun c hc => ?_⟩
        · rw [List.head?_append_of_ne_nil _ hne] at hc
          exact hmark c (List.mem_of_mem_head? hc)
        · rw [getLast?_call] at hc
          obtain rfl := Option.some.inj hc
          decide
      have hruns : HasGoodRuns (x ++ '(' :: (a ++ [')'])) ↔ HasGoodRuns a := by
        rw [hasGoodRuns_append_cons (by decide), hasGoodRuns_append_cons (by decide)]
        simp [hasGoodRuns_of_forall_not_mark hmark, hasGoodRuns_nil]
      have hlists : listsSeparated true (x ++ '(' :: (a ++ [')'])) = true ↔
          listsSeparated true a = true := by
        rw [listsSeparated_iff, listsSeparated_iff, SeparationState.after_append,
          SeparationState.after_inside (not_mem_of_isParenthesis hx rfl), SeparationState.after_cons,
          SeparationState.after_append, SeparationState.after_ne_failed (by decide)]
        rfl
      rw [if_pos rfl, connectivesFault_eq_none_iff htrim (hany.trans hmarks), ← runs_iff,
        findSome?_runFault_eq_none_iff, hruns, hlists]
      exact and_iff_right hends
  | false =>
      rw [if_neg Bool.false_ne_true, connectivesFault_eq_none_iff_of_not_mark htrim (hany.trans hmarks),
        hasManyLists, count_call hx rfl, count_call hx rfl, Bool.and_eq_false_iff]
      simp only [decide_eq_false_iff_not]
      omega

/-- The check for negative numbers reads the list, whatever parentheses stand in its strings. -/
lemma negativeNumbersFault_call (hx : ∀ c ∈ x, isReserved c = false)
    (ha : freeOutside isParenthesis none a = true) (hclosed : quoteOver none a = none) :
    negativeNumbersFault (x ++ '(' :: (a ++ [')'])) = if hasNegative a then some .negativeNumber
      else none := by
  have hname : quoteOver none x = none :=
    Text.quoteOver_of_not_quote Text.isQuoteState_none fun c hc => not_quote_of_not_reserved (hx c hc)
  have hfree : freeOutside isParenthesis none x = true := Text.freeOutside_of_forall fun c hc =>
    not_parenthesis_of_not_structural (not_structural_of_not_reserved (hx c hc))
  obtain ⟨-, -, hfound⟩ := NegativeState.after_call (s := {}) rfl rfl hfree ha hname hclosed
  rw [negativeNumbersFault_eq, hfound]
  rfl

end Call

/-! ## The list, string by string -/

section List

variable {style : Quote} {c : SpacedCall}

/-- The content of a string moves the count of open parentheses. -/
lemma hasQuoteOutside_append_content {quote : Char} {s : Text} (hs : quote ∉ s) (depth : Int) (y : Text) :
    hasQuoteOutside quote depth (s ++ y)
      = hasQuoteOutside quote (depth + s.count '(' - s.count ')') y := by
  induction s generalizing depth with
  | nil => simp
  | cons d s ih =>
      simp only [List.mem_cons, not_or] at hs
      rw [List.cons_append, hasQuoteOutside, ih hs.2, ih hs.2, ih hs.2]
      by_cases hopening : d = '('
      · subst hopening
        rw [if_pos (by decide), List.count_cons_self, List.count_cons_of_ne (by decide)]
        congr 1
        push_cast
        omega
      · by_cases hclosing : d = ')'
        · subst hclosing
          rw [if_neg (by decide), if_pos (by decide), List.count_cons_self,
            List.count_cons_of_ne (by decide)]
          congr 1
          push_cast
          omega
        · rw [if_neg (by simpa using hopening), if_neg (by simpa using hclosing),
            List.count_cons_of_ne hopening, List.count_cons_of_ne hclosing]
          simp [Ne.symm hs.1]

lemma hasQuoteOutside_mark (style : Quote) (depth : Int) (y : Text) :
    hasQuoteOutside style.mark depth (style.mark :: y)
      = (decide (depth ≤ 0) || hasQuoteOutside style.mark depth y) := by
  have hparen := Text.ne_parenthesis_of_isQuote style.isQuote_mark
  simp [hasQuoteOutside, hparen.1, hparen.2]

/-- **No quote of the strings stands outside** when the parentheses that are open at first and those in the
strings keep at least one open before and after each string. -/
lemma hasQuoteOutside_textOfStrings {strings : List Text} (hs : ∀ s ∈ strings, style.mark ∉ s)
    {depth : Int} (hdepth : 0 < depth) :
    hasQuoteOutside style.mark depth (textOfStrings style strings) = false ↔
      ∀ S ∈ strings.inits, S.flatten.count ')' < depth + S.flatten.count '(' := by
  induction strings generalizing depth with
  | nil => simpa [textOfStrings, hasQuoteOutside] using hdepth
  | cons s strings ih =>
      have hrest := fun t ht => hs t (List.mem_cons_of_mem s ht)
      have htext : textOfStrings style (s :: strings)
          = style.mark :: (s ++ style.mark :: textOfStrings style strings) := by
        simp [textOfStrings, Argument.textIn]
      have hinits : (s :: strings).inits = [] :: strings.inits.map (s :: ·) := rfl
      -- before the next string the parentheses of this one are counted as well
      have hshift : ∀ S : List Text, ((s :: S).flatten.count ')' < depth + (s :: S).flatten.count '(') ↔
          (S.flatten.count ')' < (depth + s.count '(' - s.count ')') + S.flatten.count '(') := by
        intro S
        rw [List.flatten_cons, List.count_append, List.count_append]
        push_cast
        omega
      rw [htext, hasQuoteOutside_mark, hasQuoteOutside_append_content (hs s List.mem_cons_self),
        hasQuoteOutside_mark, hinits, List.forall_mem_cons, List.forall_mem_map]
      simp only [hshift]
      generalize depth + (s.count '(' : Int) - s.count ')' = shifted
      have hfirst : decide (depth ≤ 0) = false := decide_eq_false (Int.not_le.mpr hdepth)
      by_cases hshifted : 0 < shifted
      · rw [hfirst, decide_eq_false (Int.not_le.mpr hshifted), ← ih hrest hshifted]
        simp [hdepth]
      · have hnil : [] ∈ strings.inits := (List.mem_inits _ _).mpr List.nil_prefix
        refine iff_of_false (by simp [Int.not_lt.mp hshifted]) fun h => hshifted ?_
        simpa using h.2 [] hnil

lemma hasQuoteOutside_listText (hargs : ∀ a ∈ c.arguments, a.argument.IsQuotable) :
    hasQuoteOutside style.mark 1 (c.listText style) = false ↔
      ∀ S ∈ c.strings.inits, S.flatten.count ')' ≤ S.flatten.count '(' := by
  have hreserved : ∀ d, isStructural d = true → isReserved d = true := fun d hd => by simp [isReserved, hd]
  rw [← hasQuoteOutside_filter style.isQuote_mark, filter_listText hargs hreserved,
    hasQuoteOutside_filter style.isQuote_mark,
    hasQuoteOutside_textOfStrings
      (fun s hs => SpacedArgument.mark_not_mem (not_quote_of_mem_strings hargs hs)) (by decide)]
  refine forall₂_congr fun S hS => ?_
  omega

lemma count_listText (hargs : ∀ a ∈ c.arguments, a.argument.IsQuotable) {d : Char}
    (hd : isParenthesis d = true) : (c.listText style).count d = c.strings.flatten.count d := by
  have hreserved : ∀ d, isParenthesis d = true → isReserved d = true := fun d hd => by
    simp [isReserved, isStructural, hd]
  rw [← count_filter_of_pos (p := isParenthesis) hd, filter_listText hargs hreserved,
    filter_textOfStrings style.not_isParenthesis_mark, count_filter_of_pos hd]

lemma any_mark_listText (hargs : ∀ a ∈ c.arguments, a.argument.IsQuotable) :
    (c.listText style).any isConnectiveMark = c.strings.flatten.any isConnectiveMark := by
  have hreserved : ∀ d, isConnectiveMark d = true → isReserved d = true := fun d hd => by
    simp [isReserved, hd]
  have hfilter : (c.listText style).filter isConnectiveMark = c.strings.flatten.filter isConnectiveMark := by
    rw [filter_listText hargs hreserved, filter_textOfStrings style.not_isConnectiveMark_mark]
  have hempty := congrArg List.isEmpty hfilter
  rw [isEmpty_filter_eq_not_any, isEmpty_filter_eq_not_any] at hempty
  exact Bool.not_inj hempty

lemma hasGoodRuns_print {a : SpacedArgument} (ha : a.argument.IsQuotable) :
    HasGoodRuns (a.print style) ↔ ∀ s ∈ a.argument.content?, HasGoodRuns s := by
  have hblank : ∀ b : Blank, HasGoodRuns b.val := fun b =>
    hasGoodRuns_of_forall_not_mark fun d hd => Expression.not_mark_of_isBlank b.2 hd
  obtain ⟨before, argument, after⟩ := a
  cases argument with
  | string content =>
      -- the quotes keep the runs of the string apart from everything else
      have hmark := style.not_isConnectiveMark_mark
      have hprint : SpacedArgument.print style ⟨before, .string content, after⟩
          = before.val ++ style.mark :: (content ++ style.mark :: after.val) := by
        simp [SpacedArgument.print, Argument.textIn]
      rw [hprint, hasGoodRuns_append_cons hmark, hasGoodRuns_append_cons hmark]
      simp [hblank, Argument.content?]
  | number text =>
      refine iff_of_true (hasGoodRuns_of_forall_not_mark fun d hd => ?_) (by simp [Argument.content?])
      simp only [SpacedArgument.print, Argument.textIn, List.mem_append] at hd
      rcases hd with hd | hd | hd
      · exact Expression.not_mark_of_isBlank before.2 hd
      · exact not_mark_of_not_reserved (ha d hd).1
      · exact Expression.not_mark_of_isBlank after.2 hd

/-- **The runs of a list are those of its strings.** -/
lemma hasGoodRuns_listText (hargs : ∀ a ∈ c.arguments, a.argument.IsQuotable) :
    HasGoodRuns (c.listText style) ↔ ∀ s ∈ c.strings, HasGoodRuns s := by
  have hcomma : isConnectiveMark ',' = false := by decide
  have hjoin : ∀ as : List SpacedArgument, (∀ a ∈ as, a.argument.IsQuotable) →
      (HasGoodRuns ([','].intercalate (as.map (·.print style))) ↔
        ∀ a ∈ as, ∀ s ∈ a.argument.content?, HasGoodRuns s) := by
    intro as has
    induction as with
    | nil => simp [hasGoodRuns_nil]
    | cons a as ih =>
        have hfirst := @hasGoodRuns_print style a (has a List.mem_cons_self)
        have hrest := ih fun b hb => has b (List.mem_cons_of_mem _ hb)
        cases as with
        | nil => simpa using hfirst
        | cons b as =>
            rw [List.map_cons, List.map_cons, List.intercalate_cons_cons, List.append_assoc,
              List.singleton_append, hasGoodRuns_append_cons hcomma, List.forall_mem_cons, hfirst]
            exact and_congr_right fun _ => hrest
  have hstrings : (∀ s ∈ c.strings, HasGoodRuns s) ↔
      ∀ a ∈ c.arguments, ∀ s ∈ a.argument.content?, HasGoodRuns s := by
    simp only [SpacedCall.strings, List.mem_filterMap, Option.mem_def]
    exact ⟨fun h a ha s hs => h s ⟨a, ha, hs⟩, fun h s ⟨a, ha, hs⟩ => h a ha s hs⟩
  rw [hstrings]
  by_cases hnil : c.arguments = []
  · rw [SpacedCall.listText_of_nil hnil, hnil]
    refine iff_of_true ?_ (by simp)
    exact hasGoodRuns_of_forall_not_mark fun d hd => Expression.not_mark_of_isBlank c.inside.2 hd
  · rw [SpacedCall.listText_of_ne_nil hnil]
    exact hjoin _ hargs

/-- The parentheses of a list all stand in strings, and no string is left open. -/
lemma closed_and_free_listText (hargs : ∀ a ∈ c.arguments, a.argument.IsQuotable) :
    quoteOver none (c.listText style) = none ∧
      freeOutside isParenthesis none (c.listText style) = true := by
  have hblank : ∀ d, isBlankChar d = true → isParenthesis d = false := fun d hd =>
    isParenthesis_of_blank_or_mark (Or.inl hd)
  refine SpacedCall.listText_induction
    (P := fun t => quoteOver none t = none ∧ freeOutside isParenthesis none t = true)
    (fun b hb => ?_) ⟨rfl, rfl⟩ (fun hx hy => ?_) fun a ha => ?_
  · exact ⟨Text.quoteOver_of_isBlank Text.isQuoteState_none hb,
      Text.freeOutside_of_forall fun d hd => hblank d (Text.isBlank_iff.mp hb d hd)⟩
  · rw [Text.quoteOver_append, Text.freeOutside_append, hx.1, hx.2, hy.1, hy.2]
    exact ⟨rfl, rfl⟩
  · have hdelimited := (hargs a ha).isDelimited
    refine ⟨SpacedArgument.closed_print hdelimited,
      SpacedArgument.free_print hdelimited style.not_isParenthesis_mark hblank fun text htext d hd => ?_⟩
    have hquotable := hargs a ha
    rw [htext] at hquotable
    exact not_parenthesis_of_not_structural (not_structural_of_not_reserved (hquotable d hd).1)

lemma eq_mark_of_mem_listText (hargs : ∀ a ∈ c.arguments, a.argument.IsQuotable) :
    ∀ d ∈ c.listText style, isQuote d = true → d = style.mark := by
  intro d hd hquote
  have hreserved : ∀ d, isQuote d = true → isReserved d = true := fun d hd => by
    simp [isReserved, isStructural, hd]
  have hmem : d ∈ (c.listText style).filter isQuote := List.mem_filter.mpr ⟨hd, hquote⟩
  rw [filter_listText hargs hreserved, List.mem_filter, textOfStrings, List.mem_flatMap] at hmem
  obtain ⟨⟨s, hs, hds⟩, -⟩ := hmem
  simp only [Argument.textIn, List.mem_cons, List.mem_append, List.not_mem_nil, or_false] at hds
  rcases hds with rfl | hds | rfl
  · rfl
  · rw [not_quote_of_mem_strings hargs hs d hds] at hquote
    exact Bool.noConfusion hquote
  · rfl

lemma not_hasNegative_of_isQuotable (hargs : ∀ a ∈ c.arguments, a.argument.IsQuotable) :
    hasNegative (c.listText style) = false := by
  rw [Bool.eq_false_iff, Ne, hasNegative_listText fun a ha => (hargs a ha).isDelimited]
  rintro ⟨a, ha, hminus⟩
  have hquotable := hargs a ha
  cases hargument : a.argument with
  | string content =>
      rw [hargument] at hminus
      exact hminus
  | number text =>
      rw [hargument] at hminus hquotable
      exact (hquotable _ hminus).2.2 rfl

end List

/-! ## What passes -/

/-- **The single calls that pass the standard checks.**  Let a call have a plain name, strings without quotes
and other arguments without reserved characters, commas and minus signs.  It passes exactly when three things
hold of its strings, read from left to right: they have as many opening as closing parentheses; up to the end
of each string there have been no more closing than opening ones; and if they have connective marks, each run
of these is a connective and one stands between each `)` and every later `(`, unless the parenthesis before
that `)` is another one, while strings without marks have no parentheses at all. -/
theorem passes_single_call_iff (style : Quote) {c : SpacedCall} (hname : c.HasPlainName)
    (hargs : ∀ a ∈ c.arguments, a.argument.IsQuotable) :
    firstShapeFault ShapeCheck.standard (c.print style) = none ↔
      c.strings.flatten.count '(' = c.strings.flatten.count ')' ∧
        (∀ S ∈ c.strings.inits, S.flatten.count ')' ≤ S.flatten.count '(') ∧
        if c.strings.flatten.any isConnectiveMark then
          (∀ s ∈ c.strings, HasGoodRuns s) ∧
            ∀ x y z, c.listText style = x ++ ')' :: (y ++ '(' :: z) → lastParenthesis? x ≠ some ')' →
              hasConnective y = true
        else '(' ∉ c.strings.flatten := by
  have hx := SpacedCall.not_isReserved_before_list hname
  have hne : c.name ++ c.between.val ≠ [] := by simp [hname.ne]
  obtain ⟨hclosed, hfree⟩ := @closed_and_free_listText style c hargs
  have hstyle := @eq_mark_of_mem_listText style c hargs
  have htrim : (c.coreText style).trim = c.coreText style := SpacedCall.trim_coreText hname
  have hnegative : negativeNumbersFault (c.coreText style) = none := by
    rw [SpacedCall.coreText, negativeNumbersFault_call hx hfree hclosed,
      not_hasNegative_of_isQuotable hargs]
    rfl
  rw [firstShapeFault_standard_eq_none_iff, SpacedCall.trim_print hname, hnegative]
  rw [SpacedCall.coreText] at htrim ⊢
  rw [parenthesesFault_call hne hx, quotesFault_call hx hstyle hclosed, connectivesFault_call hne hx htrim,
    count_listText hargs rfl, count_listText hargs rfl, hasQuoteOutside_listText hargs,
    any_mark_listText hargs, hasGoodRuns_listText hargs, listsSeparated_iff_gaps]
  refine and_congr_right fun hcount => and_congr_right fun _ => ?_
  rw [← hcount, or_self, List.count_eq_zero]
  exact and_iff_left rfl

/-- Parentheses in a string do no harm when they are paired and a connective stands between the pairs. -/
theorem passes_single_call_iff_paired :
    firstShapeFault ShapeCheck.standard "contains ('(a) && (b)', 08)".toList = none := by
  let nothing : Blank := ⟨[], rfl⟩
  let space : Blank := ⟨[' '], rfl⟩
  let c : SpacedCall := ⟨nothing, "contains".toList, space,
    [⟨nothing, .string "(a) && (b)".toList, nothing⟩, ⟨space, .number "08".toList, nothing⟩], nothing,
    nothing⟩
  have hname : c.HasPlainName := by decide
  have hargs : ∀ a ∈ c.arguments, a.argument.IsQuotable := by decide
  have hseparated : listsSeparated true (c.listText .single) = true := by decide
  refine (passes_single_call_iff .single hname hargs).mpr ⟨by decide, by decide, ?_⟩
  rw [if_pos (by decide)]
  exact ⟨by decide, listsSeparated_iff_gaps.mp hseparated⟩

/-- **Well-written single calls that fail the standard checks** because of what stands in their strings: each
of the three checks that do not skip strings refuses such calls, the first for a parenthesis that is missing
only outside the string. -/
theorem fails_by_string_contents :
    (∃ c : SpacedCall, c.HasPlainName ∧ (∀ a ∈ c.arguments, a.argument.IsQuotable) ∧
        c.print .single = "contains('(')".toList ∧
        firstShapeFault ShapeCheck.standard (c.print .single) = some (.missingParenthesis .closing)) ∧
      firstShapeFault ShapeCheck.standard "isBefore(')', '(')".toList = some .quoteOutsideArguments ∧
      firstShapeFault ShapeCheck.standard "contains('a|b')".toList = some (.missingMark .or) ∧
      firstShapeFault ShapeCheck.standard "contains('(a) (b)')".toList = some .missingConnective := by
  let nothing : Blank := ⟨[], rfl⟩
  let c : SpacedCall := ⟨nothing, "contains".toList, nothing,
    [⟨nothing, .string ['('], nothing⟩], nothing, nothing⟩
  have hname : c.HasPlainName := by decide
  have hargs : ∀ a ∈ c.arguments, a.argument.IsQuotable := by decide
  exact ⟨⟨c, hname, hargs, by decide, by decide⟩, by decide, by decide, by decide⟩

end BranchPolicy
