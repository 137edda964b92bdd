import BranchPolicy.Proofs.Shape.Check

/-!
# The operands of the connectives

Extraction skips blank pieces, so an expression can have fewer calls than its connectives join.  Every
other piece becomes a call.  The standard checks look at the runs of connective marks and at what stands
between argument lists, but not at the operands themselves: two connectives with nothing but blanks
between them pass.

* `operands`, `connectives` — the pieces of a text and what joins them, both outside quotes.
* `length_operands`, `calls_eq_map_operands` — how many operands there are, and which of them become
  calls; both for every text.
* `HasBareConnective` — two connectives outside quotes with nothing but blanks between them.
* `forall_not_blank_iff_of_passes` — in an expression that passes, only a bare connective lacks an
  operand.
* **`operand_on_either_side_iff`** — an expression that passes has an operand on either side of each
  connective, a call for each operand and one call more than connectives, exactly when it has no bare
  connective.
-/

namespace BranchPolicy

open Text (quoteAfter quoteOver unquotedPieces isBlank isBlankChar trim)

/-! ## Items of chains -/

namespace Chain

lemma length_items_prepend (x : Text) (K : Chain Text) :
    (K.prepend x).items.length = K.items.length := by
  cases K <;> rfl

lemma mem_items_glue_next {p q : Text} {k : Connective} (K : Chain Text) {L : Chain Text}
    (hq : q ∈ L.items) : q ∈ (K.glue (.next p k L)).items := by
  induction K with
  | last p' => exact List.mem_cons_of_mem _ hq
  | next p' k' rest ih => exact List.mem_cons_of_mem _ ih

end Chain

namespace Expression

/-! ## Operands and connectives -/

/-- The pieces of a text between its connectives outside quotes: the text is cut at `||` and each
piece at `&&`. -/
def operands (t : Text) : List Text :=
  (unquotedPieces orOperator t).flatMap (unquotedPieces andOperator)

/-- The connectives outside quotes, in order, of a text read with the quote `q` open. -/
def connectives : (q : Option Char) → Text → List Connective
  | _, [] => []
  | _, [_] => []
  | q, c :: d :: cs =>
    match connectiveAt? q c d with
    | some k => k :: connectives none cs
    | none => connectives (quoteAfter q c) (d :: cs)

lemma operands_eq_items (t : Text) : operands t = (scan none t).items := by
  rw [operands, List.flatMap, ← groups_scan, Chain.flatten_groups]

lemma length_items_scan (q : Option Char) (t : Text) :
    (scan q t).items.length = (connectives q t).length + 1 := by
  fun_induction scan q t with
  | case1 => rfl
  | case2 => rfl
  | case3 q c d cs k hk ih =>
      rw [connectives, hk, Chain.items, List.length_cons, ih, List.length_cons]
  | case4 q c d cs hk ih => rw [connectives, hk, Chain.length_items_prepend, ih]

/-- **A text has one operand more than connectives.** -/
theorem length_operands (t : Text) : (operands t).length = (connectives none t).length + 1 := by
  rw [operands_eq_items, length_items_scan]

/-- **The operands that are not blank are the calls**, in order. -/
theorem calls_eq_map_operands (expression : Text) :
    calls expression = ((operands expression.trim).filter (!·.isBlank)).map Call.parse := by
  have hitems : (scan none expression).items.map trim = (operands expression.trim).map trim := by
    rw [operands_eq_items, ← Chain.items_map, ← Chain.items_map, map_trim_scan_trim]
  rw [calls_eq_map_parse, flatten_sourceGroups, hitems, List.filter_map, List.map_map]
  simp only [Function.comp_def, parse_trim, isEmpty_trim]

lemma filter_not_isBlank_eq_self_iff {ps : List Text} :
    ps.filter (!·.isBlank) = ps ↔ ∀ p ∈ ps, isBlank p = false := by
  rw [List.filter_eq_self]
  simp

lemma quoteOver_operator (k : Connective) : quoteOver none k.operator = none :=
  Text.quoteOver_of_not_quote Text.isQuoteState_none fun c hc => by
    rw [k.operator_eq] at hc
    simp only [List.mem_cons, List.not_mem_nil, or_false, or_self] at hc
    exact hc ▸ k.isQuote_mark

/-! ## Bare connectives -/

/-- Two connectives outside quotes with nothing but blanks between them. -/
def HasBareConnective (t : Text) : Prop :=
  ∃ x j b k y, t = x ++ (Connective.operator j ++ (b ++ (Connective.operator k ++ y))) ∧
    quoteOver none x = none ∧ isBlank b = true

/-- No mark stands right before a connective of a text whose runs are connectives. -/
lemma not_mark_before_operator {x y : Text} {k : Connective}
    (h : (RunState.apart.after (x ++ (k.operator ++ y))).isComplete) :
    ∀ c ∈ x.getLast?, isConnectiveMark c = false := by
  intro c hc
  obtain ⟨u, rfl⟩ := List.getLast?_eq_some_iff.mp hc
  rw [RunState.after_append, RunState.after_append, RunState.after_operator] at h
  have hbroken := RunState.ne_broken_of_isComplete_after h
  have hapart : RunState.apart.after (u ++ [c]) = .apart := by
    by_contra hne
    exact hbroken (if_neg hne)
  rw [RunState.after_append, RunState.after_cons, RunState.after_nil] at hapart
  cases hmark : isConnectiveMark c with
  | false => rfl
  | true =>
      -- a mark leaves the scan inside a run
      obtain ⟨j, rfl⟩ := isConnectiveMark_iff.mp hmark
      rw [RunState.step_mark] at hapart
      cases hs : RunState.apart.after u with
      | half i =>
          rw [hs] at hapart
          by_cases hij : i = j <;> simp [hij] at hapart
      | apart => simp [hs] at hapart
      | full => simp [hs] at hapart
      | broken => simp [hs] at hapart

/-- The blanks of a bare connective are an operand, when the runs of the text are connectives. -/
lemma exists_blank_operand {t : Text} (hruns : (RunState.apart.after t).isComplete)
    (hbare : HasBareConnective t) : ∃ p ∈ operands t, isBlank p = true := by
  obtain ⟨x, j, b, k, y, rfl, hx, hb⟩ := hbare
  refine ⟨b, ?_, hb⟩
  have hinner : scan none (b ++ (k.operator ++ y)) = .next b k (scan none y) := by
    rw [scan_blank_append hb, scan_operator, Chain.prepend, List.append_nil]
  rw [operands_eq_items, scan_append (Or.inl (not_mark_before_operator hruns)), hx, scan_operator,
    hinner]
  exact Chain.mem_items_glue_next _ List.mem_cons_self

/-- A blank item between two others makes a bare connective. -/
lemma hasBareConnective_of_mem {p : Text} {j : Connective} {K : Chain Text}
    (hp : quoteOver none p = none) (hclosed : ∀ q ∈ K.items.dropLast, quoteOver none q = none)
    {b : Text} (hb : b ∈ K.items.dropLast) (hblank : isBlank b = true) :
    HasBareConnective (p ++ (j.operator ++ K.text)) := by
  induction K generalizing p j with
  | last q => exact absurd hb (by simp [Chain.items])
  | next q k rest ih =>
      rw [Chain.items, List.dropLast_cons_of_ne_nil rest.items_ne_nil] at hb hclosed
      rw [Chain.text_next]
      rcases List.mem_cons.mp hb with rfl | hb
      · exact ⟨p, j, b, k, rest.text, rfl, hp, hblank⟩
      · have hq := hclosed q List.mem_cons_self
        have hrest := fun q' hq' => hclosed q' (List.mem_cons_of_mem _ hq')
        obtain ⟨x, i, b', k', y, htext, hx, hb'⟩ := ih (j := k) hq hrest hb
        refine ⟨p ++ (j.operator ++ x), i, b', k', y, ?_, ?_, hb'⟩
        · rw [htext]
          simp only [List.append_assoc]
        · rw [Text.quoteOver_append, hp, Text.quoteOver_append, quoteOver_operator, hx]

/-- A chain of more than one item ends with a connective and its last item. -/
lemma exists_text_eq_append_getLast (p : Text) (k : Connective) (rest : Chain Text) :
    ∃ u i, (Chain.next p k rest).text
      = u ++ (Connective.operator i ++ rest.items.getLast rest.items_ne_nil) := by
  induction rest generalizing p k with
  | last q => exact ⟨p, k, rfl⟩
  | next q i rest ih =>
      obtain ⟨u, j, h⟩ := ih q i
      refine ⟨p ++ (k.operator ++ u), j, ?_⟩
      rw [Chain.text_next, h]
      simp only [Chain.items, List.getLast_cons rest.items_ne_nil, List.append_assoc]

/-- A blank item of a chain stands between two others, when no blank character and no mark stands at
an end of the text of the chain. -/
lemma exists_next_of_mem_blank {K : Chain Text} (hne : K.text ≠ [])
    (hhead : ∀ c ∈ K.text.head?, isBlankChar c = false ∧ isConnectiveMark c = false)
    (hlast : ∀ c ∈ K.text.getLast?, isBlankChar c = false ∧ isConnectiveMark c = false)
    {b : Text} (hb : b ∈ K.items) (hblank : isBlank b = true) :
    ∃ p k rest, K = .next p k rest ∧ b ∈ rest.items.dropLast := by
  have hoperator : ∀ (i : Connective) (x y : Text), x ++ (i.operator ++ y) ≠ [] := by
    intro i x y
    simp [i.operator_eq]
  cases K with
  | last p =>
      obtain rfl := List.mem_singleton.mp hb
      rw [Chain.text_last] at hne hhead
      have hnil := (Loose.blank hblank).eq_nil_of_head? (t := []) (by simpa using hhead)
      exact absurd hnil hne
  | next p k rest =>
      refine ⟨p, k, rest, rfl, ?_⟩
      rw [Chain.items, List.mem_cons, ← List.dropLast_append_getLast rest.items_ne_nil,
        List.mem_append, List.mem_singleton] at hb
      rcases hb with rfl | hb | rfl
      · -- a blank first item would put itself or its connective at the start
        have hloose : Loose (b ++ (k.operator ++ [])) := Loose.operator hblank k (Loose.blank rfl)
        have hnil := hloose.eq_nil_of_head? (t := rest.text) (by simpa using hhead)
        exact absurd hnil (hoperator k b [])
      · exact hb
      · -- and a blank last item at the end
        obtain ⟨u, i, htext⟩ := exists_text_eq_append_getLast p k rest
        have hloose := Loose.operator (b := []) rfl i (Loose.blank hblank)
        rw [htext] at hlast
        exact absurd (hloose.eq_nil_of_getLast? hlast) (hoperator i [] _)

/-! ## Expressions that pass -/

/-- **In an expression that passes, only a bare connective lacks an operand.** -/
theorem forall_not_blank_iff_of_passes {expression : Text}
    (h : firstShapeFault ShapeCheck.standard expression = none) :
    (∀ p ∈ operands expression.trim, isBlank p = false) ↔ ¬ HasBareConnective expression.trim := by
  obtain ⟨-, -, hconnectives, -⟩ := firstShapeFault_standard_eq_none_iff.mp h
  have htrim : expression.trim.trim = expression.trim := Text.trim_trim expression
  constructor
  · intro hall hbare
    have hmark : expression.trim.any isConnectiveMark = true := by
      obtain ⟨x, j, b, k, y, heq, -, -⟩ := hbare
      rw [heq]
      exact List.any_eq_true.mpr ⟨j.mark, by simp [j.operator_eq], j.isConnectiveMark_mark⟩
    obtain ⟨-, hruns, -⟩ := (connectivesFault_eq_none_iff htrim hmark).mp hconnectives
    obtain ⟨p, hp, hblank⟩ := exists_blank_operand hruns hbare
    exact absurd hblank (Bool.eq_false_iff.mp (hall p hp))
  · intro hbare p hp
    by_contra hblank
    refine hbare ?_
    rw [operands_eq_items] at hp
    have htext := text_scan none expression.trim
    have hne := trim_ne_nil_of_passes h
    obtain ⟨hhead, hlast⟩ := not_mark_at_ends_of_passes h
    have hhead' : ∀ c ∈ expression.trim.head?, isBlankChar c = false ∧ isConnectiveMark c = false :=
      fun c hc => ⟨Text.not_blank_of_head?_trim hc, hhead c hc⟩
    have hlast' : ∀ c ∈ expression.trim.getLast?,
        isBlankChar c = false ∧ isConnectiveMark c = false :=
      fun c hc => ⟨Text.not_blank_of_getLast?_trim hc, hlast c hc⟩
    rw [← htext] at hne hhead' hlast'
    obtain ⟨first, k, rest, hK, hmem⟩ :=
      exists_next_of_mem_blank hne hhead' hlast' hp (Bool.not_eq_false _ ▸ hblank)
    have hscanned := isScanned_scan none expression.trim
    rw [hK] at hscanned htext
    rw [← htext, Chain.text_next]
    exact hasBareConnective_of_mem hscanned.2.1
      (fun q hq => hscanned.2.2.quoteOver_eq_none hq) hmem (Bool.not_eq_false _ ▸ hblank)

/-- **When every connective has its operands.**  Let the standard checks accept an expression.  Then
each of its operands is not blank, extraction skips none of them, and there is one call more than
connectives outside quotes, each exactly when no two connectives outside quotes have nothing but blanks
between them. -/
theorem operand_on_either_side_iff {expression : Text}
    (h : firstShapeFault ShapeCheck.standard expression = none) :
    ((∀ p ∈ operands expression.trim, isBlank p = false) ↔
        ¬ HasBareConnective expression.trim) ∧
      (calls expression = (operands expression.trim).map Call.parse ↔
        ¬ HasBareConnective expression.trim) ∧
      ((calls expression).length = (connectives none expression.trim).length + 1 ↔
        ¬ HasBareConnective expression.trim) := by
  have hall := forall_not_blank_iff_of_passes h
  have hlength : (calls expression).length
      = ((operands expression.trim).filter (!·.isBlank)).length := by
    rw [calls_eq_map_operands, List.length_map]
  refine ⟨hall, ?_, ?_⟩
  · rw [← hall, ← filter_not_isBlank_eq_self_iff]
    constructor
    · intro heq
      have hkept := congrArg List.length heq
      rw [hlength, List.length_map] at hkept
      exact List.Sublist.eq_of_length List.filter_sublist hkept
    · intro heq
      rw [calls_eq_map_operands, heq]
  · rw [← hall, ← filter_not_isBlank_eq_self_iff, ← length_operands, hlength]
    exact ⟨List.Sublist.eq_of_length List.filter_sublist, congrArg List.length⟩

/-- A connective inside quotes needs no operands. -/
theorem operand_on_either_side_iff_quoted_connective :
    firstShapeFault ShapeCheck.standard "contains('&& &&') || allLowerCase( )".toList = none ∧
      ((∀ p ∈ operands (trim "contains('&& &&') || allLowerCase( )".toList), isBlank p = false) ↔
        ¬ HasBareConnective (trim "contains('&& &&') || allLowerCase( )".toList)) ∧
      (calls "contains('&& &&') || allLowerCase( )".toList
          = (operands (trim "contains('&& &&') || allLowerCase( )".toList)).map Call.parse ↔
        ¬ HasBareConnective (trim "contains('&& &&') || allLowerCase( )".toList)) ∧
      ((calls "contains('&& &&') || allLowerCase( )".toList).length
          = (connectives none (trim "contains('&& &&') || allLowerCase( )".toList)).length + 1 ↔
        ¬ HasBareConnective (trim "contains('&& &&') || allLowerCase( )".toList)) := by
  have h : firstShapeFault ShapeCheck.standard "contains('&& &&') || allLowerCase( )".toList
      = none := by decide
  exact ⟨h, operand_on_either_side_iff h⟩

/-- **A blank operand passes the standard checks.**  The second connective of this expression has
nothing but a blank before it, and two connectives join two calls. -/
theorem passes_with_blank_operand :
    firstShapeFault ShapeCheck.standard "allLowerCase() && && allLowerCase()".toList = none ∧
      operands (trim "allLowerCase() && && allLowerCase()".toList)
        = ["allLowerCase() ".toList, " ".toList, " allLowerCase()".toList] ∧
      isBlank " ".toList = true ∧
      connectives none (trim "allLowerCase() && && allLowerCase()".toList) = [.and, .and] ∧
      (calls "allLowerCase() && && allLowerCase()".toList).length = 2 := by
  decide

end Expression

end BranchPolicy
