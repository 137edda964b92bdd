import BranchPolicy.Proofs.Evaluation.FailingPredicate
import BranchPolicy.Proofs.Evaluation.LineBreaks
import BranchPolicy.Proofs.Shape.ParenthesesAndQuotes

/-!
# Quotes in string values

An argument list is cut at its commas outside quotes, and a piece is taken for a string by its two ends.
Neither step looks at where the quote that opens the piece is closed, so that two quoted texts with no comma
between them can pass for one string, with the quotes between them as a part of its value.

* `QuotedTextsSeparated` — in an argument list, each quoted text is separated from the next by a comma.
* `Fits.string_mem_iff`, `Fits.isDigits_of_mem` — string values are contents of string arguments, and number
  arguments are digits.
* `countP_isQuote_le` — an argument that holds no quote inside has two at most.
* `separated_of_forall` — a list whose arguments hold no quotes in their strings is separated.
* `not_isQuote_of_separated` — in a separated list of one quote style no string holds a quote.
* **`Dialect.string_values_unquoted_iff`** — no string value of an accepted call holds a quote exactly when the
  quoted texts of its list are separated.
-/

namespace BranchPolicy

open Text (isBlank isQuote quoteOver freeOutside unquotedPieces)

/-- **Each quoted text of an argument list is separated from the next one**: between the quote that ends it
and the next quote there is a comma. -/
def QuotedTextsSeparated (list : Text) : Prop :=
  ∀ x opener s y c z, list = x ++ opener :: (s ++ opener :: (y ++ c :: z)) → quoteOver none x = none →
    isQuote opener = true → opener ∉ s → (∀ d ∈ y, isQuote d = false) → isQuote c = true → ',' ∈ y

/-! ## Values and arguments -/

section Fits

variable {as : List Argument} {ps : List Parameter} {vs : List Value}

/-- The string values are the contents of the string arguments. -/
lemma Fits.string_mem_iff (h : Fits as ps vs) {s : Text} : .string s ∈ vs ↔ .string s ∈ as := by
  induction h with
  | nil => simp
  | @cons a p v as ps vs hkind hvalue hrest ih =>
      have hhead : Value.string s = v ↔ Argument.string s = a := by
        rw [eq_comm, @eq_comm _ _ a, ← value_eq_string_iff, hvalue]
        simp
      rw [List.mem_cons, List.mem_cons, ih, hhead]

/-- The number arguments have values, so that their texts are digits. -/
lemma Fits.isDigits_of_mem (h : Fits as ps vs) {digits : Text} (hmem : .number digits ∈ as) :
    isDigits digits = true := by
  have hvalue : (Argument.number digits).value ∈ vs.map fun v => .ok (some v) :=
    h.map_value ▸ List.mem_map_of_mem hmem
  obtain ⟨v, -, hv⟩ := List.mem_map.mp hvalue
  obtain ⟨n, hn, -⟩ := value_number_eq_some_iff.mp hv.symm
  exact (readNumber_eq_some_iff.mp hn).1

end Fits

/-! ## The quotes of an argument -/

lemma isQuote_of_isDigit {c : Char} (hc : c.isDigit = true) : isQuote c = false :=
  not_isQuote_of_isDigits (t := []) (by simp [isDigits, hc])

/-- **An argument that holds no quote inside has two at most**, at its ends. -/
lemma countP_isQuote_le {t : Text}
    (hnumber : ∀ digits, Argument.ofText t = .number digits → isDigits digits = true)
    (hstring : ∀ s, Argument.ofText t = .string s → ∀ c ∈ s, isQuote c = false) :
    t.countP isQuote ≤ 2 := by
  cases hread : Argument.ofText t with
  | number digits =>
      have hdigits := hnumber digits hread
      obtain rfl := eq_of_ofText_eq_number hread
      simp only [isDigits, Bool.and_eq_true, List.all_eq_true] at hdigits
      have hnone : digits.countP isQuote = 0 := by
        rw [List.countP_eq_zero]
        exact fun c hc => by simp [isQuote_of_isDigit (hdigits.2 c hc)]
      omega
  | string s =>
      obtain ⟨quote, hquote, rfl⟩ := exists_of_ofText_eq_string hread
      have hnone : s.countP isQuote = 0 := by
        rw [List.countP_eq_zero]
        exact fun c hc => by simp [hstring s hread c hc]
      simp [hquote, hnone]

/-! ## Argument lists -/

lemma exists_piece_of_mem_argumentTexts {t w : Text} (hw : w ∈ Call.argumentTexts t) :
    ∃ p ∈ unquotedPieces [','] t, p.trim = w := by
  rw [Call.argumentTexts] at hw
  split at hw
  · exact absurd hw List.not_mem_nil
  · exact List.mem_map.mp hw

lemma trim_mem_argumentTexts {t p : Text} (ht : isBlank t = false) (hp : p ∈ unquotedPieces [','] t) :
    p.trim ∈ Call.argumentTexts t := by
  rw [Call.argumentTexts, ht, if_neg Bool.false_ne_true]
  exact List.mem_map_of_mem hp

lemma mem_of_mem_argumentList {t : Text} {c : Char} (hc : c ∈ Call.argumentList t) : c ∈ t := by
  have hmiddle := List.mem_of_mem_tail (List.mem_reverse.mp hc)
  have hafter := List.mem_reverse.mp (List.dropWhile_subset _ hmiddle)
  exact List.dropWhile_subset _ (List.mem_of_mem_tail hafter)

/-- The content of a string argument is part of the list. -/
lemma mem_of_string_mem {t s : Text} (hs : .string s ∈ (Call.argumentTexts t).map Argument.ofText)
    {c : Char} (hc : c ∈ s) : c ∈ t := by
  obtain ⟨w, hw, hread⟩ := List.mem_map.mp hs
  obtain ⟨p, hp, rfl⟩ := exists_piece_of_mem_argumentTexts hw
  obtain ⟨quote, -, htrim⟩ := exists_of_ofText_eq_string hread
  obtain ⟨x, y, rfl, -⟩ := Text.exists_of_mem_unquotedPieces (by decide) hp
  have hpiece : c ∈ p := Text.mem_of_mem_trim (by simp [htrim, hc])
  simp [hpiece]

/-! ## Quoted texts in a list -/

/-- With no comma after a quoted text, a stretch up to a later quote has none outside quotes. -/
lemma freeOutside_quoted_append {opener c : Char} {s y : Text} (hopener : isQuote opener = true)
    (hs : opener ∉ s) (hy : ',' ∉ y) (hc : isQuote c = true) :
    freeOutside (· == ',') none (opener :: (s ++ [opener]) ++ (y ++ [c])) = true := by
  have hne : ∀ {d : Char}, isQuote d = true → d ≠ ',' := by
    rintro d hd rfl
    exact absurd hd (by decide)
  have hquoted : freeOutside (· == ',') none (opener :: (s ++ [opener])) = true := by
    refine Text.freeOutside_quoted hopener ?_ hs
    exact beq_false_of_ne (hne hopener)
  have hrest : freeOutside (· == ',') none (y ++ [c]) = true := by
    refine Text.freeOutside_of_forall fun d hd => beq_false_of_ne ?_
    rcases List.mem_append.mp hd with hd | hd
    · rintro rfl
      exact hy hd
    · exact List.mem_singleton.mp hd ▸ hne hc
  rw [Text.freeOutside_append, hquoted, Text.quoteOver_quoted hopener hs, hrest]
  rfl

/-- A string that holds its own quote is a quoted text with another quote after it. -/
lemma exists_quoted_of_mem {s : Text} {quote : Char} (hs : quote ∈ s) :
    ∃ first between rest,
      quote :: (s ++ [quote]) = quote :: (first ++ [quote]) ++ (between ++ quote :: rest) ∧
        quote ∉ first ∧ quote ∉ between := by
  obtain ⟨first, later, rfl, hfirst⟩ := List.eq_append_cons_of_mem hs
  have hlast : quote ∈ later ++ [quote] := by simp
  obtain ⟨between, rest, hlater, hbetween⟩ := List.eq_append_cons_of_mem hlast
  exact ⟨first, between, rest, by simp [← hlater], hfirst, hbetween⟩

/-- **A list is separated if no string of it holds a quote.**  Two quoted texts with no comma between them
would give one argument with three quotes. -/
lemma separated_of_forall {t : Text}
    (hnumber : ∀ digits, .number digits ∈ (Call.argumentTexts t).map Argument.ofText →
      isDigits digits = true)
    (hstring : ∀ s, .string s ∈ (Call.argumentTexts t).map Argument.ofText → ∀ c ∈ s, isQuote c = false) :
    QuotedTextsSeparated t := by
  intro x opener s y c z ht hx hopener hs hy hc
  by_contra hcomma
  obtain ⟨u, v, hpiece⟩ := Text.exists_mem_unquotedPieces (by decide) hx
    (freeOutside_quoted_append hopener hs hcomma hc) z
  have hwhole : x ++ (opener :: (s ++ [opener]) ++ (y ++ [c]) ++ z) = t := by
    rw [ht]
    simp
  rw [hwhole] at hpiece
  have hblank : isBlank t = false := by
    rw [Bool.eq_false_iff]
    intro hblank
    exact Text.not_mem_of_isBlank (Text.not_isBlankChar_of_isQuote hopener) hblank (by simp [ht])
  have hargument := trim_mem_argumentTexts hblank hpiece
  have htwo := countP_isQuote_le (fun digits h => hnumber digits (h ▸ List.mem_map_of_mem hargument))
    fun s h => hstring s (h ▸ List.mem_map_of_mem hargument)
  rw [Text.countP_trim fun _ => Text.isQuote_of_isBlankChar] at htwo
  simp only [List.countP_append, List.countP_cons, hopener, hc, List.countP_nil, if_true] at htwo
  omega

/-- **In a separated list of one quote style no string holds a quote.**  The first quote inside would end
the quoted text that the argument starts with. -/
lemma not_isQuote_of_separated {t : Text} {mark : Char} (honly : ∀ c ∈ t, isQuote c = true → c = mark)
    (hseparated : QuotedTextsSeparated t) {s : Text}
    (hs : .string s ∈ (Call.argumentTexts t).map Argument.ofText) : ∀ c ∈ s, isQuote c = false := by
  intro c hc
  by_contra hinside
  have hquote : isQuote c = true := by simpa using hinside
  obtain rfl : c = mark := honly c (mem_of_string_mem hs hc) hquote
  obtain ⟨w, hw, hread⟩ := List.mem_map.mp hs
  obtain ⟨p, hp, rfl⟩ := exists_piece_of_mem_argumentTexts hw
  obtain ⟨x, y, ht, hx, hfree⟩ := Text.exists_of_mem_unquotedPieces (by decide) hp
  obtain ⟨a, b, ha, hb, hpiece⟩ := Text.exists_eq_append_trim_append p
  obtain ⟨quote, hopening, htrim⟩ := exists_of_ofText_eq_string hread
  rw [htrim] at hpiece
  obtain rfl : quote = c := honly quote (by simp [ht, hpiece]) hopening
  obtain ⟨first, between, rest, hsplit, hfirst, hbetween⟩ := exists_quoted_of_mem hc
  -- the quoted text at the start of the piece ends where no quote is open
  have hclosed : quoteOver none (a ++ quote :: (first ++ [quote])) = none := by
    rw [Text.quoteOver_append, Text.quoteOver_of_isBlank Text.isQuoteState_none ha,
      Text.quoteOver_quoted hquote hfirst]
  have hplace : p = (a ++ quote :: (first ++ [quote])) ++ (between ++ (quote :: rest ++ b)) := by
    rw [hpiece, hsplit]
    simp
  have hclean : ∀ d ∈ between, isQuote d = false := by
    intro d hd
    by_contra hquoted
    obtain rfl := honly d (by simp [ht, hplace, hd]) (by simpa using hquoted)
    exact hbetween hd
  have hcomma : ',' ∈ between := by
    refine hseparated (x ++ a) quote first between quote (rest ++ (b ++ y)) ?_ ?_ hquote hfirst hclean hquote
    · rw [ht, hplace]
      simp
    · rw [Text.quoteOver_append, hx, Text.quoteOver_of_isBlank Text.isQuoteState_none ha]
  rw [hplace, Text.freeOutside_append, hclosed, Bool.and_eq_true] at hfree
  have hlater := hfree.2
  rw [Text.freeOutside_append, Bool.and_eq_true] at hlater
  exact absurd (Text.forall_of_freeOutside hclean hlater.1 ',' hcomma) (by simp)

/-! ## Accepted expressions -/

namespace Dialect

section

variable {r : Registry} {expression : Text} {plan : List (List ResolvedCall)}

/-- The quotes of an accepted expression are of one style, and so are those in the lists of its calls. -/
lemma exists_style_of_plan_eq_ok (h : ({ registry := r } : Dialect).plan (some expression) = .ok plan) :
    ∃ style : Quote, ∀ rc ∈ plan.flatten, ∀ c ∈ Call.argumentList rc.call.source,
      isQuote c = true → c = style.mark := by
  obtain ⟨hchecks, -⟩ := plan_eq_ok_iff.mp h
  obtain ⟨style, honly, -⟩ := exists_style_of_quotesFault_eq_none
    (hchecks quotesFault (by simp [ShapeCheck.standard]))
  refine ⟨style, fun rc hrc c hc hquote => honly c ?_ hquote⟩
  have hcall : rc.call ∈ Expression.calls expression := by
    have hcalls := (calls_of_plan_eq_ok h).1
    exact hcalls ▸ List.mem_map_of_mem hrc
  exact (Text.mem_trim_iff (Text.not_isBlankChar_of_isQuote hquote) expression).mpr
    (Expression.mem_of_mem_source hcall (mem_of_mem_argumentList hc))

/-- The arguments of a planned call are read from the list in its source, and its values are theirs. -/
lemma fits_of_mem_plan (h : ({ registry := r } : Dialect).plan (some expression) = .ok plan)
    {rc : ResolvedCall} (hrc : rc ∈ plan.flatten) :
    Fits ((Call.argumentTexts (Call.argumentList rc.call.source)).map Argument.ofText)
      rc.resolution.overload.parameters rc.resolution.values := by
  obtain ⟨hcalls, hresolved⟩ := calls_of_plan_eq_ok h
  have hcall : rc.call ∈ Expression.calls expression := hcalls ▸ List.mem_map_of_mem hrc
  have hfits := (resolves_of_resolve (hresolved rc hrc)).fits
  rw [Expression.calls_eq_map_parse] at hcall
  obtain ⟨t, -, hparse⟩ := List.mem_map.mp hcall
  rw [← hparse] at hfits ⊢
  exact hfits

/-- **When string values are free of quotes.**  Let an expression be accepted.  Evaluating it follows a plan;
the quotes in the string values of the plan are of the style of the expression; and no string value of a call
in it holds a quote exactly when the quoted texts of the argument list of the call are separated by commas. -/
theorem string_values_unquoted_iff
    (h : ({ registry := r } : Dialect).fault? (some expression) = .ok none) :
    ∃ plan, ({ registry := r } : Dialect).plan (some expression) = .ok plan ∧
      (∀ branch, ({ registry := r } : Dialect).evaluate (some expression) branch
        = follow plan (branch.getD [])) ∧
      (∃ style : Quote, ∀ rc ∈ plan.flatten, ∀ s, .string s ∈ rc.resolution.values →
        ∀ c ∈ s, isQuote c = true → c = style.mark) ∧
      ∀ rc ∈ plan.flatten,
        (∀ s, .string s ∈ rc.resolution.values → ∀ c ∈ s, isQuote c = false) ↔
          QuotedTextsSeparated (Call.argumentList rc.call.source) := by
  obtain ⟨plan, hplan, hfollow⟩ := exists_plan_of_fault?_eq_none h
  obtain ⟨style, hstyle⟩ := exists_style_of_plan_eq_ok hplan
  refine ⟨plan, hplan, hfollow, ⟨style, fun rc hrc s hs c hc => ?_⟩, fun rc hrc => ⟨?_, ?_⟩⟩
  · exact hstyle rc hrc c (mem_of_string_mem ((fits_of_mem_plan hplan hrc).string_mem_iff.mp hs) hc)
  · intro hclean
    have hfits := fits_of_mem_plan hplan hrc
    exact separated_of_forall (fun digits hmem => hfits.isDigits_of_mem hmem)
      fun s hs => hclean s (hfits.string_mem_iff.mpr hs)
  · intro hseparated s hs
    exact not_isQuote_of_separated (hstyle rc hrc) hseparated
      ((fits_of_mem_plan hplan hrc).string_mem_iff.mp hs)

end

/-- Strings that hold commas, parentheses and blanks, and none that holds a quote. -/
def separatedExpression : Text :=
  "isBefore('a, (b)', 'c') && isSectionNum(0, ' ')".toList

/-- The quoted texts of its lists are separated. -/
theorem string_values_unquoted_iff_separated :
    ∃ plan, standard.plan (some separatedExpression) = .ok plan ∧
      plan.flatten.map (·.resolution.values)
        = [[.string "a, (b)".toList, .string "c".toList], [.number 0, .string " ".toList]] ∧
      ∀ rc ∈ plan.flatten, QuotedTextsSeparated (Call.argumentList rc.call.source) := by
  have haccepted : standard.fault? (some separatedExpression) = .ok none := by decide +kernel
  obtain ⟨plan, hplan, -, -, hseparated⟩ := string_values_unquoted_iff haccepted
  have hplanned : (standard.plan (some separatedExpression)).map
      (fun plan => plan.flatten.map (·.resolution.values))
        = .ok [[.string "a, (b)".toList, .string "c".toList], [.number 0, .string " ".toList]] := by
    decide +kernel
  have hstandard : standard.plan (some separatedExpression) = .ok plan := hplan
  rw [hstandard] at hplanned
  have hvalues : plan.flatten.map (·.resolution.values)
      = [[.string "a, (b)".toList, .string "c".toList], [.number 0, .string " ".toList]] :=
    Except.ok.inj hplanned
  refine ⟨plan, hplan, hvalues, fun rc hrc => (hseparated rc hrc).mp ?_⟩
  have hmem : rc.resolution.values ∈ plan.flatten.map (·.resolution.values) := List.mem_map_of_mem hrc
  rw [hvalues] at hmem
  have hclean : ∀ s : Text, s.any isQuote = false → ∀ c ∈ s, isQuote c = false :=
    fun s hs => by simpa using hs
  intro s hs
  rcases List.mem_pair.mp hmem with hcall | hcall
  all_goals
    rw [hcall] at hs
    rcases List.mem_pair.mp hs with hs | hs <;> cases hs <;> exact hclean _ (by decide)

/-- **Two quoted texts with no comma between them are accepted as one string**, which holds the quotes between
them and is compared with the branch name as it is. -/
theorem string_value_with_quotes :
    standard.fault? (some "equalTo('a' 'b')".toList) = .ok none ∧
      (standard.plan (some "equalTo('a' 'b')".toList)).map
          (fun plan => plan.flatten.map (·.resolution.values)) = .ok [[.string "a' 'b".toList]] ∧
      approves (some "equalTo('a' 'b')".toList) (some "a' 'b".toList) = .ok true ∧
      ¬ QuotedTextsSeparated (Call.argumentList "equalTo('a' 'b')".toList) := by
  refine ⟨by decide +kernel, by decide +kernel, by decide +kernel, fun hseparated => ?_⟩
  have hcomma := hseparated [] '\x27' ['a'] [' '] '\x27' ['b', '\x27'] (by decide) rfl rfl
    (by decide) (List.forall_mem_singleton.mpr rfl) rfl
  exact absurd hcomma (by decide)

end Dialect

end BranchPolicy
