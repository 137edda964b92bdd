import BranchPolicy.Proofs.Layout

/-!
# Minus signs in printed clauses

Of the standard checks only the one for negative numbers can fail on printed clauses, and it reads a list
argument by argument.  What it finds is therefore settled one argument at a time: a string starts with its
quote, so that its minus signs do not count, and every other argument is bare.  Minus signs in names stand in
no list.

* `Argument.HasBareMinus` — the arguments without quotes that have a minus sign.
* `isNegative_trim_textIn` — the check sees these among the printed arguments.
* `hasNegative_listText` — a printed list, also one without arguments.
* **`fails_printClauses_iff`** — printed clauses fail exactly when some argument of some call is such.
-/

namespace BranchPolicy

open Text (isQuote trim)

/-! ## Arguments -/

/-- **An argument without quotes that has a minus sign.** -/
def Argument.HasBareMinus : Argument → Prop
  | .string _ => False
  | .number text => '-' ∈ text

instance : DecidablePred Argument.HasBareMinus
  | .string _ => inferInstanceAs (Decidable False)
  | .number text => inferInstanceAs (Decidable ('-' ∈ text))

/-- The check sees the bare minus signs of a printed argument and no others. -/
lemma isNegative_trim_textIn {style : Quote} {a : Argument} (ha : a.IsDelimited) :
    isNegative (a.textIn style).trim = true ↔ a.HasBareMinus := by
  cases a with
  | string content =>
      -- the quote in front decides how the argument starts
      have hstart : ArgumentStart.blank.step style.mark = .quoted := by
        simp [ArgumentStart.step, style.not_isBlankChar_mark, style.isQuote_mark]
      rw [Argument.textIn, isNegative_trim, ArgumentStart.after_cons, hstart,
        ArgumentStart.after_eq_self (by simp)]
      simp [ArgumentStart.isBare, Argument.HasBareMinus]
  | number text =>
      have hquote : text.trim.head?.any isQuote = false := by
        rw [Option.any_eq_false]
        intro c hc
        exact (ha c (Text.mem_of_mem_trim (List.mem_of_mem_head? hc))).1
      rw [Argument.textIn, isNegative, hquote, Bool.not_false, Bool.true_and, List.contains_iff_mem]
      exact Text.mem_trim_iff (by decide) text

/-! ## Lists -/

section Lists

variable {style : Quote} {c : SpacedCall}

/-- **A printed list has a negative argument** exactly when some argument has a bare minus sign. -/
lemma hasNegative_listText (hc : ∀ a ∈ c.arguments, a.argument.IsDelimited) :
    hasNegative (c.listText style) = true ↔ ∃ a ∈ c.arguments, a.argument.HasBareMinus := by
  by_cases hnil : c.arguments = []
  · have htexts : Call.argumentTexts (c.listText style) = [] := by
      rw [SpacedCall.listText_of_nil hnil, Call.argumentTexts, if_pos c.inside.2]
    simp [hasNegative, htexts, hnil]
  · rw [hasNegative_eq_any, SpacedCall.unquotedPieces_listText hc hnil, List.any_map, List.any_eq_true]
    refine exists_congr fun a => and_congr_right fun ha => ?_
    show isNegative (a.print style).trim = true ↔ a.argument.HasBareMinus
    rw [SpacedArgument.trim_print]
    exact isNegative_trim_textIn (hc a ha)

end Lists

/-! ## Clauses -/

/-- **Where a minus sign is refused.**  Let clauses be printed with any blanks around their parts; their
names are of any characters but reserved ones, registered or not.  The standard checks fail exactly when an
argument without quotes, of whichever call, has a minus sign, and the fault is then that of negative
numbers. -/
theorem fails_printClauses_iff (style : Quote) {written : List (List SpacedCall)} (h : ArePlain written) :
    (firstShapeFault ShapeCheck.standard (printClauses style written) ≠ none ↔
        ∃ c ∈ written.flatten, ∃ a ∈ c.arguments, a.argument.HasBareMinus) ∧
      ∀ fault, firstShapeFault ShapeCheck.standard (printClauses style written) = some fault →
        fault.message = "Negative number argument values are not allowed." := by
  have hany : written.flatten.any (fun c => hasNegative (c.listText style)) = true ↔
      ∃ c ∈ written.flatten, ∃ a ∈ c.arguments, a.argument.HasBareMinus := by
    rw [List.any_eq_true]
    exact exists_congr fun c => and_congr_right fun hc => hasNegative_listText (h.isPlain hc).isDelimited
  rw [firstShapeFault_printClauses style h, ← hany]
  cases written.flatten.any fun c => hasNegative (c.listText style) with
  | false => simp
  | true =>
      refine ⟨by simp, ?_⟩
      intro fault hfault
      obtain rfl := Option.some.inj hfault
      rfl

/-- Dashes in a name and in a string do no harm; the minus sign in the last argument of a call that comes
later does. -/
theorem fails_printClauses_iff_later_call :
    firstShapeFault ShapeCheck.standard "no-name( 'a-b' )&&f() || g(\t08 ,3 - 4)".toList ≠ none ∧
      ∀ fault, firstShapeFault ShapeCheck.standard "no-name( 'a-b' )&&f() || g(\t08 ,3 - 4)".toList
          = some fault → fault.message = "Negative number argument values are not allowed." := by
  let nothing : Blank := ⟨[], rfl⟩
  let space : Blank := ⟨[' '], rfl⟩
  let last : SpacedArgument := ⟨nothing, .number "3 - 4".toList, nothing⟩
  let later : SpacedCall := ⟨space, "g".toList, nothing,
    [⟨⟨['\t'], rfl⟩, .number "08".toList, space⟩, last], nothing, nothing⟩
  let written : List (List SpacedCall) :=
    [[⟨nothing, "no-name".toList, nothing, [⟨space, .string "a-b".toList, space⟩], nothing, nothing⟩,
      ⟨nothing, "f".toList, nothing, [], nothing, space⟩],
     [later]]
  have hplain : ArePlain written :=
    ⟨List.cons_ne_nil _ _, by simp [written], by decide⟩
  obtain ⟨hfails, hmessage⟩ := fails_printClauses_iff .single hplain
  have hlater : later ∈ written.flatten := by simp [written]
  have hlast : last ∈ later.arguments := by simp [later]
  exact ⟨hfails.mpr ⟨later, hlater, last, hlast, by decide⟩, hmessage⟩

end BranchPolicy
