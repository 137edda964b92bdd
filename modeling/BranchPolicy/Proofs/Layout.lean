import BranchPolicy.Proofs.Shape.PlainCalls

/-!
# Expressions laid out as text

An expression is printed here with any blanks around its names, parentheses, commas and connectives.
What the scanners make of the printed text is settled part by part: arguments, lists, calls and the
whole.

* `SpacedArgument`, `SpacedCall` — an argument and a call with the blanks around their parts.
* `SpacedCall.print`, `printClauses` — the text of a call and of clauses in a quote style.
* `Argument.IsPlain`, `SpacedCall.IsPlain` — arguments and calls that can be printed in any style.
* `Argument.IsDelimited`, `SpacedCall.HasPlainName` — what suffices for cutting a list and for trimming.
* **`unquotedPieces_listText`** — cutting a printed list gives its arguments back.
* **`isPlainCall_coreText`** — a printed call is a plain call between blanks.
* **`sourceGroups_printClauses`** — extraction gives the texts of the printed calls back.
* **`firstShapeFault_printClauses`** — of the standard checks only the one for negative numbers can fail.
-/

namespace BranchPolicy

open Expression (Spread scan sourceGroups)
open Text (isBlank isBlankChar isQuote quoteAfter quoteOver unquotedPieces freeOutside trim)

/-! ## Printing -/

/-- A text of blank characters. -/
abbrev Blank := { b : Text // isBlank b = true }

lemma isBlank_nil : isBlank [] = true := rfl

lemma isBlank_space : isBlank [' '] = true := rfl

/-- No blank character at all. -/
def Blank.none : Blank := ⟨[], isBlank_nil⟩

/-- A single space. -/
def Blank.space : Blank := ⟨[' '], isBlank_space⟩

/-- An argument as text, strings in quotes of the given style. -/
def Argument.textIn (style : Quote) : Argument → Text
  | .string content => style.mark :: (content ++ [style.mark])
  | .number digits => digits

/-- An argument with the blanks around it. -/
structure SpacedArgument where
  before : Blank
  argument : Argument
  after : Blank

/-- The text of an argument with its blanks. -/
def SpacedArgument.print (style : Quote) (a : SpacedArgument) : Text :=
  a.before ++ (a.argument.textIn style ++ a.after)

/-- A call with the blanks around it, between its name and its list, and in its list if that has no
arguments. -/
structure SpacedCall where
  before : Blank
  name : Text
  between : Blank
  arguments : List SpacedArgument
  inside : Blank
  after : Blank

namespace SpacedCall

/-- The text of the argument list of a call. -/
def listText (style : Quote) (c : SpacedCall) : Text :=
  match c.arguments with
  | [] => c.inside
  | arguments => [','].intercalate (arguments.map (·.print style))

/-- The text of a call without the blanks around it. -/
def coreText (style : Quote) (c : SpacedCall) : Text :=
  (c.name ++ c.between) ++ '(' :: (c.listText style ++ [')'])

/-- The text of a call. -/
def print (style : Quote) (c : SpacedCall) : Text :=
  c.before ++ (c.coreText style ++ c.after)

end SpacedCall

/-- **Clauses as text**: the calls of a clause joined by `&&` and the clauses by `||`. -/
def printClauses (style : Quote) (clauses : List (List SpacedCall)) : Text :=
  orOperator.intercalate (clauses.map fun calls =>
    andOperator.intercalate (calls.map (·.print style)))

/-! ## What can be printed -/

/-- Whether a character has a meaning of its own in expressions: parentheses, quotes and marks. -/
def isReserved (c : Char) : Bool :=
  isStructural c || isConnectiveMark c

/-- Arguments that can be printed: no reserved character stands in them, and no comma in a number
text. -/
def Argument.IsPlain : Argument → Prop
  | .string content => ∀ c ∈ content, isReserved c = false
  | .number digits => ∀ c ∈ digits, isReserved c = false ∧ c ≠ ','

/-- Calls that can be printed: the name is trimmed, not empty and without reserved characters, and the
arguments are plain. -/
structure SpacedCall.IsPlain (c : SpacedCall) : Prop where
  name_ne : c.name ≠ []
  name_trim : c.name.trim = c.name
  name_free : ∀ d ∈ c.name, isReserved d = false
  arguments : ∀ a ∈ c.arguments, a.argument.IsPlain

instance : DecidablePred Argument.IsPlain
  | .string content =>
    decidable_of_iff (content.any isReserved = false) (by simp [Argument.IsPlain])
  | .number digits =>
    decidable_of_iff (digits.all (fun c => !isReserved c && c != ',') = true) (by simp [Argument.IsPlain])

/-- Arguments whose printed text does not run into what stands around it: no quote stands in them, and no
comma in a number text. -/
def Argument.IsDelimited : Argument → Prop
  | .string content => ∀ c ∈ content, isQuote c = false
  | .number text => ∀ c ∈ text, isQuote c = false ∧ c ≠ ','

/-- Calls whose name is trimmed, not empty and without reserved characters. -/
structure SpacedCall.HasPlainName (c : SpacedCall) : Prop where
  ne : c.name ≠ []
  trim : c.name.trim = c.name
  free : ∀ d ∈ c.name, isReserved d = false

instance (c : SpacedCall) : Decidable c.HasPlainName :=
  decidable_of_iff (c.name ≠ [] ∧ c.name.trim = c.name ∧ c.name.all (!isReserved ·) = true)
    ⟨fun ⟨hne, htrim, hfree⟩ => ⟨hne, htrim, by simpa using hfree⟩,
      fun ⟨hne, htrim, hfree⟩ => ⟨hne, htrim, by simpa using hfree⟩⟩

lemma SpacedCall.IsPlain.hasPlainName {c : SpacedCall} (hc : c.IsPlain) : c.HasPlainName :=
  ⟨hc.name_ne, hc.name_trim, hc.name_free⟩

instance (c : SpacedCall) : Decidable c.IsPlain :=
  decidable_of_iff (c.HasPlainName ∧ ∀ a ∈ c.arguments, a.argument.IsPlain)
    ⟨fun ⟨hname, hargs⟩ => ⟨hname.ne, hname.trim, hname.free, hargs⟩,
      fun hc => ⟨hc.hasPlainName, hc.arguments⟩⟩

/-- The characters that a printed part can have: those that are not reserved, and the quote of its
style. -/
def IsPrinted (style : Quote) (t : Text) : Prop :=
  ∀ c ∈ t, isReserved c = false ∨ c = style.mark

section Printed

variable {style : Quote} {t : Text} {c : Char}

lemma not_isReserved_of_blank (hc : isBlankChar c = true) : isReserved c = false := by
  rw [isReserved, isStructural_of_blank_or_mark (Or.inl hc), isConnectiveMark_of_isBlankChar hc]
  rfl

lemma isPrinted_of_blank (ht : isBlank t = true) : IsPrinted style t := fun c hc =>
  Or.inl (not_isReserved_of_blank (Text.isBlank_iff.mp ht c hc))

lemma isPrinted_append {x y : Text} (hx : IsPrinted style x) (hy : IsPrinted style y) :
    IsPrinted style (x ++ y) := by
  intro c hc
  rcases List.mem_append.mp hc with hc | hc
  · exact hx c hc
  · exact hy c hc

lemma not_structural_of_not_reserved (hc : isReserved c = false) : isStructural c = false := by
  rw [isReserved, Bool.or_eq_false_iff] at hc
  exact hc.1

lemma not_mark_of_not_reserved (hc : isReserved c = false) : isConnectiveMark c = false := by
  rw [isReserved, Bool.or_eq_false_iff] at hc
  exact hc.2

lemma not_quote_of_not_reserved (hc : isReserved c = false) : isQuote c = false :=
  not_quote_of_not_structural (not_structural_of_not_reserved hc)

lemma Argument.IsPlain.isDelimited {a : Argument} (ha : a.IsPlain) : a.IsDelimited := by
  cases a with
  | string content => exact fun c hc => not_quote_of_not_reserved (ha c hc)
  | number text => exact fun c hc => ⟨not_quote_of_not_reserved (ha c hc).1, (ha c hc).2⟩

lemma SpacedCall.IsPlain.isDelimited {c : SpacedCall} (hc : c.IsPlain) :
    ∀ a ∈ c.arguments, a.argument.IsDelimited :=
  fun a ha => (hc.arguments a ha).isDelimited

lemma Quote.not_isBlankChar_mark (style : Quote) : isBlankChar style.mark = false := by
  cases style <;> decide

lemma Quote.not_isParenthesis_mark (style : Quote) : isParenthesis style.mark = false := by
  cases style <;> decide

lemma Quote.not_isConnectiveMark_mark (style : Quote) : isConnectiveMark style.mark = false := by
  cases style <;> decide

lemma IsPrinted.not_parenthesis (ht : IsPrinted style t) (hc : c ∈ t) : isParenthesis c = false := by
  rcases ht c hc with h | rfl
  · exact not_parenthesis_of_not_structural (not_structural_of_not_reserved h)
  · exact style.not_isParenthesis_mark

lemma IsPrinted.not_mark (ht : IsPrinted style t) (hc : c ∈ t) : isConnectiveMark c = false := by
  rcases ht c hc with h | rfl
  · exact not_mark_of_not_reserved h
  · exact style.not_isConnectiveMark_mark

lemma IsPrinted.eq_mark (ht : IsPrinted style t) (hc : c ∈ t) (hquote : isQuote c = true) :
    c = style.mark := by
  rcases ht c hc with h | h
  · rw [not_quote_of_not_reserved h] at hquote
    exact Bool.noConfusion hquote
  · exact h

end Printed

/-! ## Arguments -/

namespace SpacedArgument

variable {style : Quote} {a : SpacedArgument}

lemma isPrinted_textIn (ha : a.argument.IsPlain) : IsPrinted style (a.argument.textIn style) := by
  obtain ⟨before, argument, after⟩ := a
  cases argument with
  | number digits => exact fun c hc => Or.inl (ha c hc).1
  | string content =>
      intro c hc
      simp only [Argument.textIn, List.mem_cons, List.mem_append, List.not_mem_nil, or_false] at hc
      rcases hc with rfl | hc | rfl
      · exact Or.inr rfl
      · exact Or.inl (ha c hc)
      · exact Or.inr rfl

lemma isPrinted_print (ha : a.argument.IsPlain) : IsPrinted style (a.print style) :=
  isPrinted_append (isPrinted_of_blank a.before.2)
    (isPrinted_append (isPrinted_textIn ha) (isPrinted_of_blank a.after.2))

lemma mark_not_mem {content : Text} (h : (Argument.string content).IsDelimited) :
    style.mark ∉ content := by
  intro hmem
  have hquote := h _ hmem
  rw [style.isQuote_mark] at hquote
  exact Bool.noConfusion hquote

/-- A printed argument leaves no quote open. -/
lemma closed_textIn (ha : a.argument.IsDelimited) : quoteOver none (a.argument.textIn style) = none := by
  obtain ⟨before, argument, after⟩ := a
  cases argument with
  | number text => exact Text.quoteOver_of_not_quote Text.isQuoteState_none fun c hc => (ha c hc).1
  | string content => exact Text.quoteOver_quoted style.isQuote_mark (mark_not_mem ha)

/-- A printed argument has no character of a class outside quotes, unless it is a number text with one. -/
lemma free_textIn {p : Char → Bool} (ha : a.argument.IsDelimited) (hmark : p style.mark = false)
    (hnumber : ∀ text, a.argument = .number text → ∀ c ∈ text, p c = false) :
    freeOutside p none (a.argument.textIn style) = true := by
  obtain ⟨before, argument, after⟩ := a
  cases argument with
  | number text => exact Text.freeOutside_of_forall (hnumber text rfl)
  | string content => exact Text.freeOutside_quoted style.isQuote_mark hmark (mark_not_mem ha)

lemma closed_blank (b : Blank) : quoteOver none b.val = none :=
  Text.quoteOver_of_isBlank Text.isQuoteState_none b.2

lemma closed_print (ha : a.argument.IsDelimited) : quoteOver none (a.print style) = none := by
  rw [print, Text.quoteOver_append, closed_blank, Text.quoteOver_append, closed_textIn ha, closed_blank]

lemma free_print {p : Char → Bool} (ha : a.argument.IsDelimited) (hmark : p style.mark = false)
    (hblank : ∀ c, isBlankChar c = true → p c = false)
    (hnumber : ∀ text, a.argument = .number text → ∀ c ∈ text, p c = false) :
    freeOutside p none (a.print style) = true := by
  have hfree : ∀ b : Blank, freeOutside p none b.val = true := fun b =>
    Text.freeOutside_of_forall fun c hc => hblank c (Text.isBlank_iff.mp b.2 c hc)
  rw [print, Text.freeOutside_append, Text.freeOutside_append, closed_blank, closed_textIn ha, hfree, hfree,
    free_textIn ha hmark hnumber]
  rfl

lemma free_comma_print (ha : a.argument.IsDelimited) :
    freeOutside (· == ',') none (a.print style) = true := by
  refine free_print ha (by cases style <;> decide) (fun c hc => ?_) fun text htext c hc => ?_
  · exact beq_false_of_ne (Text.ne_of_isBlankChar hc (by decide))
  · rw [htext] at ha
    exact beq_false_of_ne (ha c hc).2

lemma trim_print (a : SpacedArgument) :
    (a.print style).trim = (a.argument.textIn style).trim :=
  Text.trim_append_append a.before.2 a.after.2 _

end SpacedArgument

/-! ## Lists -/

namespace SpacedCall

variable {style : Quote} {c : SpacedCall}

lemma listText_of_nil (h : c.arguments = []) : c.listText style = c.inside := by
  simp only [listText, h]

lemma listText_of_ne_nil (h : c.arguments ≠ []) :
    c.listText style = [','].intercalate (c.arguments.map (·.print style)) := by
  rw [listText]
  split
  · next hnil => exact absurd hnil h
  · rfl

/-- What holds of blanks, of the comma and of printed arguments, and of a text when it holds of its parts,
holds of printed lists. -/
lemma listText_induction {P : Text → Prop} (hblank : ∀ b, isBlank b = true → P b)
    (hcomma : P [',']) (happend : ∀ {x y}, P x → P y → P (x ++ y))
    (harguments : ∀ a ∈ c.arguments, P (a.print style)) : P (c.listText style) := by
  have hjoin : ∀ as : List SpacedArgument, (∀ a ∈ as, P (a.print style)) →
      P ([','].intercalate (as.map (·.print style))) := by
    intro as has
    induction as with
    | nil => exact hblank [] rfl
    | cons a as ih =>
        have ha := has a List.mem_cons_self
        have hrest := ih fun b hb => has b (List.mem_cons_of_mem _ hb)
        cases as with
        | nil =>
            rw [List.map_singleton, List.intercalate_singleton]
            exact ha
        | cons b as =>
            rw [List.map_cons, List.map_cons, List.intercalate_cons_cons]
            exact happend (happend ha hcomma) hrest
  rw [listText]
  split
  · exact hblank _ c.inside.2
  · exact hjoin _ harguments

lemma isPrinted_listText (hc : c.IsPlain) : IsPrinted style (c.listText style) := by
  refine listText_induction (fun b hb => isPrinted_of_blank hb) (fun d hd => ?_) isPrinted_append
    fun a ha => SpacedArgument.isPrinted_print (hc.arguments a ha)
  obtain rfl := List.mem_singleton.mp hd
  exact Or.inl (by decide)

lemma closed_listText (hc : ∀ a ∈ c.arguments, a.argument.IsDelimited) :
    quoteOver none (c.listText style) = none := by
  refine listText_induction (P := fun t => quoteOver none t = none)
    (fun b hb => Text.quoteOver_of_isBlank Text.isQuoteState_none hb) rfl (fun hx hy => ?_)
    fun a ha => SpacedArgument.closed_print (hc a ha)
  rw [Text.quoteOver_append, hx, hy]

/-- **Cutting a printed list gives its arguments back.** -/
theorem unquotedPieces_listText (hc : ∀ a ∈ c.arguments, a.argument.IsDelimited)
    (hne : c.arguments ≠ []) :
    unquotedPieces [','] (c.listText style) = c.arguments.map (·.print style) := by
  rw [listText_of_ne_nil hne]
  refine Text.unquotedPieces_intercalate (by decide) (by simpa using hne) ?_ ?_
  · intro p hp
    obtain ⟨a, ha, rfl⟩ := List.mem_map.mp hp
    exact SpacedArgument.free_comma_print (hc a ha)
  · intro p hp
    obtain ⟨a, ha, rfl⟩ := List.mem_map.mp hp
    exact SpacedArgument.closed_print (hc a ha)

/-! ## Calls -/

lemma not_isReserved_before_list (hc : c.HasPlainName) :
    ∀ d ∈ c.name ++ c.between, isReserved d = false := by
  intro d hd
  rcases List.mem_append.mp hd with hd | hd
  · exact hc.free d hd
  · exact not_isReserved_of_blank (Text.isBlank_iff.mp c.between.2 d hd)

/-- **A printed call is a plain call**, up to the blanks around it. -/
theorem isPlainCall_coreText (hc : c.IsPlain) : IsPlainCall style (c.coreText style) := by
  have hlist : IsPrinted style (c.listText style) := isPrinted_listText hc
  refine IsPlainCall.mk (by simp [hc.name_ne]) ?_ (fun d hd => hlist.not_parenthesis hd)
    (fun d hd hquote => hlist.eq_mark hd hquote) (closed_listText hc.isDelimited)
  exact fun d hd => not_structural_of_not_reserved (not_isReserved_before_list hc.hasPlainName d hd)

/-- The text of a call starts with its name and ends with a parenthesis, so that trimming leaves it. -/
lemma trim_coreText (hc : c.HasPlainName) : (c.coreText style).trim = c.coreText style := by
  refine Text.trim_eq_self (fun d hd => ?_) fun d hd => ?_
  · have hname : (c.coreText style).head? = c.name.head? := by
      rw [coreText, List.append_assoc, List.head?_append_of_ne_nil _ hc.ne]
    rw [hname, ← hc.trim] at hd
    exact Text.not_blank_of_head?_trim hd
  · rw [coreText, getLast?_call] at hd
    obtain rfl := Option.some.inj hd
    decide

lemma trim_print (hc : c.HasPlainName) : (c.print style).trim = c.coreText style := by
  rw [print, Text.trim_append_append c.before.2 c.after.2, trim_coreText hc]

lemma not_mark_print (hc : c.IsPlain) : ∀ d ∈ c.print style, isConnectiveMark d = false := by
  have hblank : ∀ b : Blank, ∀ d ∈ b.val, isConnectiveMark d = false := fun b d hd =>
    Expression.not_mark_of_isBlank b.2 hd
  have hlist : IsPrinted style (c.listText style) := isPrinted_listText hc
  intro d hd
  simp only [print, coreText, List.mem_append, List.mem_cons, List.not_mem_nil, or_false] at hd
  rcases hd with hd | ((hd | hd) | rfl | hd | rfl) | hd
  · exact hblank _ d hd
  · exact not_mark_of_not_reserved (hc.name_free d hd)
  · exact hblank _ d hd
  · decide
  · exact hlist.not_mark hd
  · decide
  · exact hblank _ d hd

lemma closed_print (hc : c.IsPlain) : quoteOver none (c.print style) = none := by
  rw [← Expression.quoteOver_trim, trim_print hc.hasPlainName]
  exact (isPlainCall_coreText hc).quoteOver_eq_none

lemma not_isBlank_print (hc : c.IsPlain) : isBlank (c.print style) = false := by
  rw [← Text.isBlank_trim, trim_print hc.hasPlainName, Bool.eq_false_iff]
  intro hblank
  have hplain : IsPlainCall style (c.coreText style) := isPlainCall_coreText hc
  rw [← Text.trim_eq_nil_iff, trim_coreText hc.hasPlainName] at hblank
  exact hplain.ne_nil hblank

lemma name_parse_coreText (hc : c.IsPlain) : (Call.parse (c.coreText style)).name = c.name := by
  have hopening : '(' ∉ c.name ++ c.between := by
    intro hmem
    exact absurd (not_isReserved_before_list hc.hasPlainName _ hmem) (by decide)
  have hname : (c.name ++ c.between).trim = c.name := by
    rw [Text.trim_append_right c.between.2, hc.name_trim]
  rw [Call.parse, trim_coreText hc.hasPlainName]
  exact (nameOf_call hopening _).trans hname

lemma argumentList_coreText (hc : c.IsPlain) :
    Call.argumentList (c.coreText style) = c.listText style := by
  have hopening : '(' ∉ c.name ++ c.between := by
    intro hmem
    exact absurd (not_isReserved_before_list hc.hasPlainName _ hmem) (by decide)
  exact argumentList_call hopening _

/-- The arguments of a printed call are read back, if their texts are trimmed and not empty. -/
lemma argumentTexts_listText (hc : c.IsPlain)
    (htrim : ∀ a ∈ c.arguments, (a.argument.textIn style).trim = a.argument.textIn style)
    (hne : ∀ a ∈ c.arguments, a.argument.textIn style ≠ []) :
    Call.argumentTexts (c.listText style) = c.arguments.map fun a => a.argument.textIn style := by
  by_cases hnil : c.arguments = []
  · have hblank : isBlank (c.listText style) = true := by
      rw [listText_of_nil hnil]
      exact c.inside.2
    rw [Call.argumentTexts, if_pos hblank, hnil, List.map_nil]
  · have hpieces : unquotedPieces [','] (c.listText style) = c.arguments.map (·.print style) :=
      unquotedPieces_listText hc.isDelimited hnil
    have htexts : (c.arguments.map (·.print style)).map trim
        = c.arguments.map fun a => a.argument.textIn style := by
      rw [List.map_map]
      refine List.map_congr_left fun a ha => ?_
      exact (SpacedArgument.trim_print a).trans (htrim a ha)
    -- a blank list would be a single blank argument
    have hblank : ¬ isBlank (c.listText style) = true := by
      intro hblank
      obtain ⟨a, as, has⟩ := List.exists_cons_of_ne_nil hnil
      rw [Text.unquotedPieces_of_free (Text.freeOutside_of_isBlank (by decide) hblank)] at hpieces
      rw [← hpieces, has, List.map_cons, List.map_cons, Text.trim_eq_nil_iff.mpr hblank] at htexts
      exact hne a (by simp [has]) (List.cons.inj htexts).1.symm
    rw [Call.argumentTexts, if_neg hblank, hpieces, htexts]

end SpacedCall

/-! ## Clauses -/

/-- Clauses that can be printed: there is one, none is empty, and every call of them can be printed. -/
structure ArePlain (clauses : List (List SpacedCall)) : Prop where
  ne_nil : clauses ≠ []
  nil_not_mem : [] ∉ clauses
  calls : ∀ calls ∈ clauses, ∀ c ∈ calls, c.IsPlain

section Clauses

variable {style : Quote} {clauses : List (List SpacedCall)}

lemma ArePlain.isPlain (h : ArePlain clauses) {c : SpacedCall} (hc : c ∈ clauses.flatten) :
    c.IsPlain := by
  obtain ⟨calls, hcalls, hmem⟩ := List.mem_flatten.mp hc
  exact h.calls calls hcalls c hmem

/-- The printed text of clauses is that of a chain of printed calls. -/
lemma exists_chain_of_arePlain (style : Quote) (h : ArePlain clauses) :
    ∃ K : Chain Text, printClauses style clauses = K.text ∧
      (K.map trim).groups = clauses.map (·.map (·.coreText style)) ∧
      ∀ p ∈ K.items, ∃ c : SpacedCall, c.IsPlain ∧ p = c.print style := by
  obtain ⟨K, hK⟩ := Chain.exists_groups_eq h.ne_nil h.nil_not_mem
  refine ⟨K.map (·.print style), ?_, ?_, ?_⟩
  · rw [Chain.text, Chain.join_eq_intercalate, Chain.groups_map, hK, printClauses, List.map_map]
    rfl
  · rw [Chain.groups_map, Chain.groups_map, hK, List.map_map]
    refine List.map_congr_left fun calls hcalls => ?_
    rw [Function.comp_apply, List.map_map]
    exact List.map_congr_left fun c hc => SpacedCall.trim_print (h.calls calls hcalls c hc).hasPlainName
  · intro p hp
    rw [Chain.items_map] at hp
    obtain ⟨c, hc, rfl⟩ := List.mem_map.mp hp
    rw [← K.flatten_groups, hK] at hc
    exact ⟨c, h.isPlain hc, rfl⟩

/-- **Extraction gives the texts of the printed calls back**, clause by clause. -/
theorem sourceGroups_printClauses (style : Quote) (h : ArePlain clauses) :
    sourceGroups (printClauses style clauses) = clauses.map (·.map (·.coreText style)) := by
  obtain ⟨K, hprint, hgroups, hitems⟩ := exists_chain_of_arePlain style h
  rw [hprint, ← hgroups]
  refine Expression.sourceGroups_chain_text ?_ ?_ ?_
  all_goals
    intro p hp
    obtain ⟨c, hc, rfl⟩ := hitems p hp
  · exact SpacedCall.not_mark_print hc
  · exact SpacedCall.closed_print hc
  · exact SpacedCall.not_isBlank_print hc

lemma isPlainCall_of_mem (h : ArePlain clauses) :
    ∀ t ∈ clauses.flatten.map (·.coreText style), IsPlainCall style t ∧ t.trim = t := by
  intro t ht
  obtain ⟨c, hc, rfl⟩ := List.mem_map.mp ht
  exact ⟨SpacedCall.isPlainCall_coreText (h.isPlain hc), SpacedCall.trim_coreText (h.isPlain hc).hasPlainName⟩

lemma clauses_printClauses (style : Quote) (h : ArePlain clauses) :
    Expression.clauses (printClauses style clauses)
      = clauses.map fun calls => ⟨calls.map fun c => Call.parse (c.coreText style)⟩ := by
  rw [Expression.clauses_eq_map_sourceGroups, sourceGroups_printClauses style h, List.map_map]
  simp [Function.comp_def]

/-- The calls of the clauses are spread over the trimmed text. -/
lemma spread_printClauses (style : Quote) (h : ArePlain clauses) :
    Spread (clauses.flatten.map (·.coreText style)) (printClauses style clauses).trim := by
  obtain ⟨K, hprint, hgroups, hitems⟩ := exists_chain_of_arePlain style h
  have hclosed : ∀ p ∈ K.items, quoteOver none p = none := by
    intro p hp
    obtain ⟨c, hc, rfl⟩ := hitems p hp
    exact SpacedCall.closed_print hc
  have hcores : K.items.map trim = clauses.flatten.map (·.coreText style) := by
    rw [← Chain.items_map, ← Chain.flatten_groups, hgroups, List.map_flatten]
  obtain ⟨a, t, b, htext, ha, hb, hspread⟩ := Expression.exists_spread_text hclosed
  rw [hcores] at hspread
  have htrim : t.trim = t := hspread.trim_eq (fun c hc => (isPlainCall_of_mem h c hc).1.ne_nil)
    fun c hc => (isPlainCall_of_mem h c hc).2
  rw [hprint, htext, Text.trim_append_append ha hb, htrim]
  exact hspread

lemma isComplete_printClauses (style : Quote) (h : ArePlain clauses) :
    (RunState.apart.after (printClauses style clauses).trim).isComplete := by
  obtain ⟨K, hprint, -, hitems⟩ := exists_chain_of_arePlain style h
  rw [hprint]
  refine isComplete_trim (isComplete_text (Or.inl rfl) (fun p hp => ?_) fun p hp => ?_)
  · obtain ⟨c, hc, rfl⟩ := hitems p hp
    exact SpacedCall.not_mark_print hc
  · obtain ⟨c, hc, rfl⟩ := hitems p hp
    exact Text.ne_nil_of_not_isBlank (SpacedCall.not_isBlank_print hc)

/-- **Of the standard checks only the one for negative numbers can fail on printed clauses**, and it
fails exactly when the list of some call has a negative argument. -/
theorem firstShapeFault_printClauses (style : Quote) (h : ArePlain clauses) :
    firstShapeFault ShapeCheck.standard (printClauses style clauses)
      = if clauses.flatten.any (fun c => hasNegative (c.listText style)) then some .negativeNumber
        else none := by
  have hspread := spread_printClauses style h
  have hplain : ∀ t ∈ clauses.flatten.map (·.coreText style), IsPlainCall style t :=
    fun t ht => (isPlainCall_of_mem h t ht).1
  have hne : ∀ t ∈ clauses.flatten.map (·.coreText style), t ≠ [] := fun t ht => (hplain t ht).ne_nil
  have hhead : ∀ d ∈ (printClauses style clauses).trim.head?, isConnectiveMark d = false := by
    obtain ⟨t, ht, heq⟩ := hspread.exists_head?_eq hne
    intro d hd
    obtain ⟨c, hc, rfl⟩ := List.mem_map.mp ht
    have hmem : d ∈ c.coreText style := List.mem_of_mem_head? (heq ▸ hd)
    have hprint : d ∈ c.print style := by simp [SpacedCall.print, hmem]
    exact SpacedCall.not_mark_print (h.isPlain hc) d hprint
  have hlast : ∀ d ∈ (printClauses style clauses).trim.getLast?, isConnectiveMark d = false := by
    obtain ⟨t, ht, heq⟩ := hspread.exists_getLast?_eq hne
    intro d hd
    rw [heq, (hplain t ht).getLast?_eq] at hd
    obtain rfl := Option.some.inj hd
    decide
  have hnegative : (clauses.flatten.map (·.coreText style)).any
      (fun t => hasNegative (Call.argumentList t))
        = clauses.flatten.any fun c => hasNegative (c.listText style) := by
    rw [Bool.eq_iff_iff, List.any_eq_true, List.any_eq_true]
    constructor
    · rintro ⟨t, ht, hneg⟩
      obtain ⟨c, hc, rfl⟩ := List.mem_map.mp ht
      rw [SpacedCall.argumentList_coreText (h.isPlain hc)] at hneg
      exact ⟨c, hc, hneg⟩
    · rintro ⟨c, hc, hneg⟩
      refine ⟨c.coreText style, List.mem_map_of_mem hc, ?_⟩
      rw [SpacedCall.argumentList_coreText (h.isPlain hc)]
      exact hneg
  have hconnectives := connectivesFault_of_plain hspread hplain (Text.trim_trim _) hhead hlast
    (isComplete_printClauses style h)
  rw [← hnegative, ← negativeNumbersFault_of_plain hspread hplain]
  simp [firstShapeFault, ShapeCheck.standard, parenthesesFault_of_plain hspread hplain,
    quotesFault_of_plain hspread hplain, hconnectives]

end Clauses

end BranchPolicy
