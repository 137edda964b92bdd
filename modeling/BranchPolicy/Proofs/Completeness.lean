import BranchPolicy.Proofs.Evaluation.Reference
import BranchPolicy.Proofs.Function.Registry
import BranchPolicy.Proofs.Layout

/-!
# Completeness of accepting an expression

Whatever is written as calls of registered functions with arguments of the right kinds is accepted, in
every layout, and is read as what was written.

* `Argument.IsLegible` — strings without reserved characters, and texts of digits.
* `Argument.IsLiteral` — those of them that denote a value.
* `parse_coreText_of_isLegible` — a printed call with legible arguments is read back.
* `firstShapeFault_of_areLegible`, `plan_print` — printed clauses of such calls pass the standard checks,
  and the plan of one such call is its resolution.
* **`accepted_printClauses`** — printed clauses of such calls are accepted and read back.
-/

namespace BranchPolicy

open Expression (clauses sourceGroups)
open Text (isBlank isBlankChar isQuote)

/-! ## Literals -/

/-- Arguments whose text is read back: a string without parentheses, quotes and connective marks, or a
non-empty sequence of digits. -/
def Argument.IsLegible : Argument → Prop
  | .string content => ∀ c ∈ content, isReserved c = false
  | .number digits => isDigits digits = true

/-- Arguments that denote values: a string without parentheses, quotes and connective marks, or a
non-empty sequence of digits that is not too long and whose value is not too large. -/
def Argument.IsLiteral : Argument → Prop
  | .string content => ∀ c ∈ content, isReserved c = false
  | .number digits =>
    isDigits digits = true ∧ digits.length ≤ mostDigits ∧ digitsValue digits ≤ largestNumber

instance : DecidablePred Argument.IsLiteral
  | .string content =>
    decidable_of_iff (content.all (!isReserved ·) = true) (by simp [Argument.IsLiteral])
  | .number digits => inferInstanceAs (Decidable (isDigits digits = true ∧
      digits.length ≤ mostDigits ∧ digitsValue digits ≤ largestNumber))

lemma ne_of_isDigit {c d : Char} (hc : c.isDigit = true) (hd : d.isDigit = false) : c ≠ d := by
  rintro rfl
  rw [hc] at hd
  exact Bool.noConfusion hd

lemma not_isReserved_of_isDigit {c : Char} (hc : c.isDigit = true) : isReserved c = false := by
  have hne : ∀ d, d.isDigit = false → c ≠ d := fun d hd => ne_of_isDigit hc hd
  simp [isReserved, isStructural, isParenthesis, isQuote, isConnectiveMark, Connective.mark,
    hne '(' (by decide), hne ')' (by decide), hne Text.singleQuote (by decide),
    hne Text.doubleQuote (by decide), hne '&' (by decide), hne '|' (by decide)]

lemma not_isBlankChar_of_isDigit {c : Char} (hc : c.isDigit = true) : isBlankChar c = false := by
  rw [Char.isDigit_iff_toNat] at hc
  have hlow : 48 ≤ c.toNat := hc.1
  have hhigh : c.toNat ≤ 57 := hc.2
  rw [Bool.eq_false_iff]
  intro hblank
  simp only [isBlankChar, Bool.or_eq_true, Bool.and_eq_true, decide_eq_true_eq, beq_iff_eq] at hblank
  omega

lemma all_isDigit_of_isDigits {t : Text} (ht : isDigits t = true) : ∀ c ∈ t, c.isDigit = true := by
  simp only [isDigits, Bool.and_eq_true, List.all_eq_true] at ht
  exact ht.2

lemma ne_nil_of_isDigits {t : Text} (ht : isDigits t = true) : t ≠ [] := by
  rintro rfl
  exact absurd ht (by decide)

namespace Argument

variable {a : Argument} {style : Quote}

lemma IsLiteral.isLegible (ha : a.IsLiteral) : a.IsLegible := by
  cases a with
  | string content => exact ha
  | number digits => exact ha.1

lemma IsLiteral.exists_value (ha : a.IsLiteral) : ∃ v, a.value = .ok (some v) := by
  cases a with
  | string content => exact ⟨.string content, rfl⟩
  | number digits =>
      have hread : readNumber digits = .ok (some (digitsValue digits)) :=
        readNumber_eq_some_iff.mpr ⟨ha.1, ha.2.1, ha.2.2, rfl⟩
      exact ⟨.number (digitsValue digits), value_number_eq_some_iff.mpr ⟨_, hread, rfl⟩⟩

lemma IsLegible.isPlain (ha : a.IsLegible) : a.IsPlain := by
  cases a with
  | string content => exact ha
  | number digits =>
      intro c hc
      have hdigit := all_isDigit_of_isDigits ha c hc
      exact ⟨not_isReserved_of_isDigit hdigit, ne_of_isDigit hdigit (by decide)⟩

lemma IsLegible.ofText_textIn (ha : a.IsLegible) : ofText (a.textIn style) = a := by
  cases a with
  | string content => exact ofText_quoted style.isQuote_mark content
  | number digits => exact ofText_of_isDigits ha

lemma IsLegible.textIn_ne_nil (ha : a.IsLegible) : a.textIn style ≠ [] := by
  cases a with
  | string content => exact List.cons_ne_nil _ _
  | number digits => exact ne_nil_of_isDigits ha

lemma IsLegible.trim_textIn (ha : a.IsLegible) : (a.textIn style).trim = a.textIn style := by
  cases a with
  | string content =>
      refine Text.trim_eq_self (fun c hc => ?_) fun c hc => ?_
      · obtain rfl := Option.some.inj hc
        exact style.not_isBlankChar_mark
      · rw [textIn, ← List.cons_append, List.getLast?_concat] at hc
        obtain rfl := Option.some.inj hc
        exact style.not_isBlankChar_mark
  | number digits =>
      have hblank := fun c hc => not_isBlankChar_of_isDigit (all_isDigit_of_isDigits ha c hc)
      exact Text.trim_eq_self (fun c hc => hblank c (List.mem_of_mem_head? hc)) fun c hc =>
        hblank c (List.mem_of_mem_getLast? hc)

/-- No such argument is negative: a string starts with its quote, and a number has no minus sign. -/
lemma IsLegible.not_isNegative (ha : a.IsLegible) : isNegative (a.textIn style) = false := by
  cases a with
  | string content => simp [isNegative, textIn, style.isQuote_mark]
  | number digits =>
      have hminus : '-' ∉ digits := fun hmem =>
        absurd (all_isDigit_of_isDigits ha _ hmem) (by decide)
      simp [isNegative, textIn, hminus]

end Argument

/-! ## Calls that are read back -/

namespace SpacedCall

variable {style : Quote} {c : SpacedCall}

lemma argumentTexts_of_isLegible (hc : c.IsPlain) (ha : ∀ a ∈ c.arguments, a.argument.IsLegible) :
    Call.argumentTexts (c.listText style) = c.arguments.map fun a => a.argument.textIn style :=
  argumentTexts_listText hc (fun a h => (ha a h).trim_textIn) fun a h => (ha a h).textIn_ne_nil

/-- **A printed call with legible arguments is read back.** -/
theorem parse_coreText_of_isLegible (style : Quote) (hc : c.IsPlain)
    (ha : ∀ a ∈ c.arguments, a.argument.IsLegible) :
    (Call.parse (c.coreText style)).name = c.name ∧
      (Call.parse (c.coreText style)).arguments = c.arguments.map (·.argument) := by
  refine ⟨name_parse_coreText hc, ?_⟩
  have hlist : (Call.parse (c.coreText style)).arguments
      = (Call.argumentTexts (c.listText style)).map Argument.ofText := by
    rw [Call.parse, trim_coreText hc.hasPlainName, argumentList_coreText hc]
  rw [hlist, argumentTexts_of_isLegible hc ha, List.map_map]
  exact List.map_congr_left fun a h => (ha a h).ofText_textIn

lemma parse_coreText (style : Quote) (hc : c.IsPlain) (ha : ∀ a ∈ c.arguments, a.argument.IsLiteral) :
    (Call.parse (c.coreText style)).name = c.name ∧
      (Call.parse (c.coreText style)).arguments = c.arguments.map (·.argument) :=
  parse_coreText_of_isLegible style hc fun a h => (ha a h).isLegible

lemma not_hasNegative_listText (hc : c.IsPlain) (ha : ∀ a ∈ c.arguments, a.argument.IsLegible) :
    hasNegative (c.listText style) = false := by
  rw [hasNegative, argumentTexts_of_isLegible hc ha, List.any_eq_false]
  intro t ht
  obtain ⟨a, hmem, rfl⟩ := List.mem_map.mp ht
  rw [(ha a hmem).not_isNegative]
  exact Bool.false_ne_true

lemma isCallText_coreText (hc : c.IsPlain) : Expression.IsCallText (c.coreText style) where
  ne_nil := (isPlainCall_coreText hc).ne_nil
  trim_eq := trim_coreText hc.hasPlainName
  scan_eq := by
    refine Expression.scan_of_not_mark fun d hd => ?_
    have hprint : d ∈ c.print style := by simp [print, hd]
    exact not_mark_print hc d hprint

lemma endsInList_coreText (hc : c.IsPlain) : endsInList (c.coreText style) = true := by
  have hplain : IsPlainCall style (c.coreText style) := isPlainCall_coreText hc
  rw [endsInList, hplain.getLast?_eq]
  simp [coreText]

/-- **A printed call resolves** when its function has an overload for the kinds of its arguments. -/
theorem exists_resolve_coreText (style : Quote) {r : Registry} (hc : c.IsPlain)
    (ha : ∀ a ∈ c.arguments, a.argument.IsLiteral) {o : Overload} (ho : o ∈ r.overloads c.name)
    (hkinds : o.signature.kinds = c.arguments.map (·.argument.kind)) :
    ∃ res, r.resolve (Call.parse (c.coreText style)) = .ok res := by
  obtain ⟨hname, harguments⟩ := parse_coreText style hc ha
  have hform : endsInList (Call.parse (c.coreText style)).render = true := by
    rw [(isCallText_coreText hc).render_parse]
    exact endsInList_coreText hc
  have hliteral : ∀ a ∈ c.arguments.map (·.argument), a.IsLiteral := by
    intro a hmem
    obtain ⟨b, hb, rfl⟩ := List.mem_map.mp hmem
    exact ha b hb
  have hreadable : Readable (c.arguments.map (·.argument)) := fun digits hmem _ =>
    (hliteral (.number digits) hmem).2.1
  obtain ⟨vs, hfits⟩ : ∃ vs, Fits (c.arguments.map (·.argument)) o.parameters vs := by
    refine exists_fits ?_ fun a hmem => (hliteral a hmem).exists_value
    rw [List.map_map]
    exact hkinds.symm
  rw [← hname] at ho
  rw [← harguments] at hreadable hfits
  exact exists_resolve_eq_ok hform ho hreadable hfits

end SpacedCall

/-! ## Clauses -/

/-- Clauses whose calls can be resolved: their arguments are literals, of the kinds of an overload of
their function. -/
def AreRegistered (r : Registry) (written : List (List SpacedCall)) : Prop :=
  ∀ calls ∈ written, ∀ c ∈ calls, (∀ a ∈ c.arguments, a.argument.IsLiteral) ∧
    ∃ o ∈ r.overloads c.name, o.signature.kinds = c.arguments.map (·.argument.kind)

instance (r : Registry) (written : List (List SpacedCall)) : Decidable (AreRegistered r written) :=
  inferInstanceAs (Decidable (∀ calls ∈ written, ∀ c ∈ calls, _ ∧ _))

section Clauses

variable {r : Registry} {written : List (List SpacedCall)}

/-- Registered names can be printed when they are trimmed and free of reserved characters. -/
lemma AreRegistered.arePlain (hr : r.IsFiled)
    (hnames : ∀ name ∈ r.names, name.trim = name ∧ ∀ c ∈ name, isReserved c = false)
    (hne : written ≠ []) (hclauses : ∀ calls ∈ written, calls ≠ [])
    (h : AreRegistered r written) : ArePlain written := by
  refine ⟨hne, fun hmem => hclauses [] hmem rfl, fun calls hmem c hc => ?_⟩
  obtain ⟨hliteral, o, ho, -⟩ := h calls hmem c hc
  obtain ⟨htrim, hfree⟩ := hnames c.name (Registry.mem_names_of_mem_overloads ho)
  have hname := Text.ne_nil_of_not_isBlank (hr c.name o ho).2
  exact ⟨hname, htrim, hfree, fun a ha => (hliteral a ha).isLegible.isPlain⟩

/-- Printed clauses with legible arguments pass the standard checks. -/
lemma firstShapeFault_of_areLegible (style : Quote) (hplain : ArePlain written)
    (h : ∀ calls ∈ written, ∀ c ∈ calls, ∀ a ∈ c.arguments, a.argument.IsLegible) :
    firstShapeFault ShapeCheck.standard (printClauses style written) = none := by
  have hnegative : written.flatten.any (fun c => hasNegative (c.listText style)) = false := by
    rw [List.any_eq_false]
    intro c hc
    obtain ⟨calls, hmem, hcalls⟩ := List.mem_flatten.mp hc
    rw [SpacedCall.not_hasNegative_listText (hplain.isPlain hc) (h calls hmem c hcalls)]
    exact Bool.false_ne_true
  rw [firstShapeFault_printClauses style hplain, hnegative]
  rfl

lemma firstShapeFault_of_areRegistered (style : Quote) (hplain : ArePlain written)
    (h : AreRegistered r written) :
    firstShapeFault ShapeCheck.standard (printClauses style written) = none :=
  firstShapeFault_of_areLegible style hplain fun calls hmem c hc a ha =>
    ((h calls hmem c hc).1 a ha).isLegible

/-- The plan of a printed call is its resolution. -/
lemma Dialect.plan_print {r : Registry} (style : Quote) {c : SpacedCall} (hc : c.IsPlain)
    (ha : ∀ a ∈ c.arguments, a.argument.IsLegible) :
    ({ registry := r } : Dialect).plan (some (c.print style))
      = (r.resolve (Call.parse (c.coreText style))).map
          fun res => [[⟨Call.parse (c.coreText style), res⟩]] := by
  have hprint : printClauses style [[c]] = c.print style := by simp [printClauses]
  have hplain : ArePlain [[c]] := ⟨by simp, by simp, by simpa using hc⟩
  have hshape : ({ registry := r } : Dialect).shapeFault? (some (printClauses style [[c]])) = none :=
    firstShapeFault_of_areLegible style hplain (by simpa using ha)
  rw [← hprint, Dialect.plan, hshape, Option.getD_some, clauses_printClauses style hplain]
  simp only [Dialect.resolveClauses, Dialect.resolveCall, List.map_cons, List.map_nil, List.mapM_cons,
    List.mapM_nil]
  cases r.resolve (Call.parse (c.coreText style)) <;> rfl

lemma exists_resolveClauses (style : Quote) (hplain : ArePlain written)
    (h : AreRegistered r written) :
    ∃ plan, ({ registry := r } : Dialect).resolveClauses (clauses (printClauses style written))
      = .ok plan := by
  rw [clauses_printClauses style hplain]
  refine Traversal.exists_mapM_eq_ok fun clause hclause => ?_
  refine Traversal.exists_mapM_eq_ok fun call hcall => ?_
  obtain ⟨calls, hmem, rfl⟩ := List.mem_map.mp hclause
  obtain ⟨c, hc, rfl⟩ := List.mem_map.mp hcall
  obtain ⟨hliteral, o, ho, hkinds⟩ := h calls hmem c hc
  obtain ⟨res, hres⟩ :=
    SpacedCall.exists_resolve_coreText style (hplain.calls calls hmem c hc) hliteral ho hkinds
  exact ⟨⟨_, res⟩, Dialect.resolveCall_eq_ok_iff.mpr ⟨rfl, hres⟩⟩

end Clauses

/-- **Completeness of accepting.**  Take a registry that was built and whose names are trimmed and free
of parentheses, quotes and connective marks.  Take clauses, at least one and none of them empty, of
calls that name a registered function and whose arguments are literals of the kinds of one of its
overloads.  Printed in one quote style and with any blanks around names, parentheses, commas and
connectives, they are accepted by the standard checks and the resolution, and extraction gives back
the same clauses with the same names and arguments in order. -/
theorem Dialect.accepted_printClauses {declarations : List Declaration} {r : Registry}
    (hbuild : Registry.build declarations = .ok r)
    (hnames : ∀ name ∈ r.names, name.trim = name ∧ ∀ c ∈ name, isReserved c = false)
    (style : Quote) {written : List (List SpacedCall)} (hne : written ≠ [])
    (hclauses : ∀ calls ∈ written, calls ≠ []) (hcalls : AreRegistered r written) :
    ({ registry := r } : Dialect).fault? (some (printClauses style written)) = .ok none ∧
      (clauses (printClauses style written)).map
          (fun clause => clause.calls.map fun c => (c.name, c.arguments))
        = written.map (·.map fun c => (c.name, c.arguments.map (·.argument))) := by
  have hplain := hcalls.arePlain (Registry.isFiled_of_build hbuild) hnames hne hclauses
  constructor
  · obtain ⟨plan, hresolved⟩ := exists_resolveClauses style hplain hcalls
    have hshape : ({ registry := r } : Dialect).shapeFault? (some (printClauses style written))
        = none := firstShapeFault_of_areRegistered style hplain hcalls
    have hplan : ({ registry := r } : Dialect).plan (some (printClauses style written))
        = .ok plan := by
      rw [Dialect.plan, hshape]
      exact hresolved
    exact Dialect.fault?_eq_of_plan_eq_ok hplan
  · rw [clauses_printClauses style hplain, List.map_map]
    refine List.map_congr_left fun calls hmem => ?_
    rw [Function.comp_apply, List.map_map]
    refine List.map_congr_left fun c hc => ?_
    obtain ⟨hname, harguments⟩ :=
      SpacedCall.parse_coreText style (hplain.calls calls hmem c hc) (hcalls calls hmem c hc).1
    rw [Function.comp_apply, hname, harguments]

/-- Completeness at two clauses in double quotes, with a comma, a glob and a line break in a string and
blanks of several kinds around the parts. -/
theorem Dialect.accepted_printClauses_two_clauses :
    Dialect.standard.fault?
        (some "\t isSectionNum ( 08,\x22- \x22 )&&allLowerCase( ) || equalTo(\x22a,\n#\x22)\n".toList)
        = .ok none ∧
      (clauses
        "\t isSectionNum ( 08,\x22- \x22 )&&allLowerCase( ) || equalTo(\x22a,\n#\x22)\n".toList).map
          (fun clause => clause.calls.map fun c => (c.name, c.arguments))
        = [[("isSectionNum".toList, [.number "08".toList, .string "- ".toList]),
            ("allLowerCase".toList, [])],
           [("equalTo".toList, [.string "a,\n#".toList])]] := by
  let nothing : Blank := ⟨[], rfl⟩
  let space : Blank := ⟨[' '], rfl⟩
  let written : List (List SpacedCall) :=
    [[⟨⟨"\t ".toList, rfl⟩, "isSectionNum".toList, space,
        [⟨space, .number "08".toList, nothing⟩, ⟨nothing, .string "- ".toList, space⟩], nothing,
        nothing⟩,
      ⟨nothing, "allLowerCase".toList, nothing, [], space, space⟩],
     [⟨space, "equalTo".toList, nothing, [⟨nothing, .string "a,\n#".toList, nothing⟩], nothing,
        ⟨['\n'], rfl⟩⟩]]
  have hcalls : AreRegistered Registry.standard written := by decide
  have hnames : ∀ name ∈ Registry.standard.names,
      name.trim = name ∧ ∀ c ∈ name, isReserved c = false := by
    have hall : ∀ name ∈ Registry.standard.names,
        name.trim = name ∧ name.all (!isReserved ·) = true := by decide
    intro name hname
    exact ⟨(hall name hname).1, by simpa using (hall name hname).2⟩
  exact Dialect.accepted_printClauses Registry.build_standard hnames .double (by decide)
    (by decide) hcalls

end BranchPolicy
