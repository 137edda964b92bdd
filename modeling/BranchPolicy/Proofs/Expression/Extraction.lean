import BranchPolicy.Proofs.Expression.Chain

/-!
# Extraction through the one-pass scan

`Expression.clauses` cuts twice, trims, drops blank pieces and reads what is left as calls.  Here
it is brought into one normal form, on which the results about printing and rejoining are built.

* **`groups_scan`** — the two-level cut gives the clauses of the one-pass scan.
* `sourceGroups` — the trimmed, non-empty pieces clause by clause, which are the texts of the calls.
* **`clauses_eq_map_sourceGroups`** — the clauses of an expression are its source groups read as
  calls; nothing else of the expression enters.
* `map_trim_scan_trim` — whether an expression is trimmed before the scan makes no difference to
  the trimmed pieces.
* **`sourceGroups_render`** — printing the clauses of an expression and extracting again gives the
  same source groups, for every text.
-/

namespace BranchPolicy.Expression

open Text (quoteAfter quoteOver piecesFrom unquotedPieces consFirst isBlank trim)

/-! ## The two-level cut -/

lemma piecesFrom_operator_cons_cons (k : Connective) (q : Option Char) (c d : Char) (cs : Text) :
    piecesFrom k.operator q 0 (c :: d :: cs)
      = if connectiveAt? q c d = some k then [] :: piecesFrom k.operator none 0 cs
        else consFirst c (piecesFrom k.operator (quoteAfter q c) 0 (d :: cs)) := by
  have hcond : (q.isNone && !Text.isQuote c && k.operator.isPrefixOf (c :: d :: cs)) = true ↔
      connectiveAt? q c d = some k := by
    rw [connectiveAt?_eq_some_iff, k.operator_eq]
    simp only [List.isPrefixOf, Bool.and_eq_true, Option.isNone_iff_eq_none, Bool.not_eq_true',
      beq_iff_eq, and_true]
    constructor
    · rintro ⟨⟨hq, -⟩, hc, hd⟩
      exact ⟨hq, hc.symm, hd.symm⟩
    · rintro ⟨rfl, rfl, rfl⟩
      exact ⟨⟨rfl, k.isQuote_mark⟩, rfl, rfl⟩
  have hlength : k.operator.length - 1 = 1 := by cases k <;> rfl
  rw [piecesFrom]
  simp only [hcond, hlength]
  rfl

lemma piecesFrom_operator_singleton (k : Connective) (q : Option Char) (c : Char) :
    piecesFrom k.operator q 0 [c] = [[c]] := by
  rw [k.operator_eq, piecesFrom]
  simp [List.isPrefixOf, piecesFrom, consFirst]

/-- A mark of `&&` is kept by the cut at `||`. -/
lemma piecesFrom_or_cons_and (cs : Text) :
    piecesFrom orOperator none 0 (Connective.and.mark :: cs)
      = consFirst Connective.and.mark (piecesFrom orOperator none 0 cs) := by
  cases cs with
  | nil => rfl
  | cons d cs =>
      have hnone : connectiveAt? none Connective.and.mark d ≠ some .or := by
        intro h
        exact absurd (connectiveAt?_eq_some_iff.mp h).2.1 (by decide)
      have hstep := piecesFrom_operator_cons_cons .or none Connective.and.mark d cs
      rw [if_neg hnone, Text.quoteAfter_none_of_not_quote (Connective.isQuote_mark .and)] at hstep
      exact hstep

/-- The two-level cut of a text read with the quote `q` open.  The first piece of the outer cut
continues with that quote, the others start outside quotes, as the inner cut assumes of each. -/
lemma groups_scan_aux (q : Option Char) (t : Text) :
    ∃ p ps, piecesFrom orOperator q 0 t = p :: ps ∧ p <+: t ∧
      (scan q t).groups = piecesFrom andOperator q 0 p :: ps.map (unquotedPieces andOperator) := by
  fun_induction scan q t with
  | case1 q => exact ⟨[], [], rfl, List.prefix_rfl, rfl⟩
  | case2 q c =>
      refine ⟨[c], [], piecesFrom_operator_singleton .or q c, List.prefix_rfl, ?_⟩
      rw [List.map_nil]
      exact congrArg (· :: []) (piecesFrom_operator_singleton .and q c).symm
  | case3 q c d cs k hk ih =>
      obtain ⟨p, ps, hpieces, hprefix, hgroups⟩ := ih
      obtain ⟨rfl, rfl, rfl⟩ := connectiveAt?_eq_some_iff.mp hk
      cases k with
      | or =>
          refine ⟨[], p :: ps, ?_, List.nil_prefix, ?_⟩
          · have hstep := piecesFrom_operator_cons_cons .or none Connective.or.mark
              Connective.or.mark cs
            rw [if_pos hk] at hstep
            exact hstep.trans (congrArg ([] :: ·) hpieces)
          · rw [Chain.groups, hgroups]
            rfl
      | and =>
          refine ⟨Connective.and.mark :: Connective.and.mark :: p, ps, ?_, ?_, ?_⟩
          · rw [piecesFrom_or_cons_and, piecesFrom_or_cons_and, hpieces]
            rfl
          · exact List.cons_prefix_cons.mpr ⟨rfl, List.cons_prefix_cons.mpr ⟨rfl, hprefix⟩⟩
          · have hstep := piecesFrom_operator_cons_cons .and none Connective.and.mark
              Connective.and.mark p
            rw [if_pos hk] at hstep
            rw [Chain.groups, hgroups, List.modifyHead_cons]
            exact congrArg (· :: _) hstep.symm
  | case4 q c d cs hk ih =>
      obtain ⟨p, ps, hpieces, hprefix, hgroups⟩ := ih
      have hnot : ∀ k : Connective, connectiveAt? q c d ≠ some k := fun k h => by
        rw [hk] at h
        exact absurd h (by simp)
      refine ⟨c :: p, ps, ?_, List.cons_prefix_cons.mpr ⟨rfl, hprefix⟩, ?_⟩
      · have hstep := piecesFrom_operator_cons_cons .or q c d cs
        rw [if_neg (hnot .or)] at hstep
        exact hstep.trans (congrArg (consFirst c) hpieces)
      · -- the inner cut sees the same next character, as its piece is a prefix of the text
        have hinner : piecesFrom andOperator q 0 (c :: p)
            = consFirst c (piecesFrom andOperator (quoteAfter q c) 0 p) := by
          cases p with
          | nil => exact piecesFrom_operator_singleton .and q c
          | cons e p =>
              obtain ⟨rfl, -⟩ := List.cons_prefix_cons.mp hprefix
              have hstep := piecesFrom_operator_cons_cons .and q c e p
              rw [if_neg (hnot .and)] at hstep
              exact hstep
        obtain ⟨x, xs, hx⟩ := List.exists_cons_of_ne_nil
          (Text.piecesFrom_ne_nil andOperator (quoteAfter q c) 0 p)
        rw [Chain.groups_prepend, hgroups, hinner, hx]
        rfl

/-- **The two-level cut is the one-pass scan**, clause by clause. -/
theorem groups_scan (t : Text) :
    (scan none t).groups = (unquotedPieces orOperator t).map (unquotedPieces andOperator) := by
  obtain ⟨p, ps, hpieces, -, hgroups⟩ := groups_scan_aux none t
  rw [hgroups, unquotedPieces, hpieces]
  rfl

/-! ## Trimmed pieces -/

lemma map_trim_prepend {b : Text} (hb : isBlank b = true) (K : Chain Text) :
    (K.prepend b).map trim = K.map trim := by
  cases K <;> simp [Chain.prepend, Chain.map, Text.trim_append_left hb]

lemma map_trim_glue_last {b : Text} (hb : isBlank b = true) (K : Chain Text) :
    (K.glue (.last b)).map trim = K.map trim := by
  induction K with
  | last p => simp [Chain.glue, Chain.prepend, Chain.map, Text.trim_append_right hb]
  | next p k rest ih => simp [Chain.glue, Chain.map, ih]

lemma not_mark_of_isBlank {b : Text} (hb : isBlank b = true) {c : Char} (hc : c ∈ b) :
    isConnectiveMark c = false :=
  isConnectiveMark_of_isBlankChar (Text.isBlank_iff.mp hb c hc)

lemma scan_blank_append {a : Text} (ha : isBlank a = true) (t : Text) :
    scan none (a ++ t) = (scan none t).prepend a := by
  have hseam : (∀ c ∈ a.getLast?, isConnectiveMark c = false) ∨
      ∀ c ∈ t.head?, isConnectiveMark c = false :=
    Or.inl fun c hc => not_mark_of_isBlank ha (List.mem_of_mem_getLast? hc)
  rw [scan_append hseam, scan_of_not_mark fun c hc => not_mark_of_isBlank ha hc,
    Text.quoteOver_of_isBlank Text.isQuoteState_none ha]
  rfl

/-- Blanks around a text are scanned into its first and its last piece. -/
lemma scan_append_append {a b : Text} (ha : isBlank a = true) (hb : isBlank b = true) (t : Text) :
    scan none (a ++ (t ++ b)) = ((scan none t).glue (.last b)).prepend a := by
  have hseam : (∀ c ∈ t.getLast?, isConnectiveMark c = false) ∨
      ∀ c ∈ b.head?, isConnectiveMark c = false :=
    Or.inr fun c hc => not_mark_of_isBlank hb (List.mem_of_mem_head? hc)
  rw [scan_blank_append ha, scan_append hseam,
    scan_of_not_mark fun c hc => not_mark_of_isBlank hb hc]

/-- **Trimming the text first makes no difference to the trimmed pieces.** -/
theorem map_trim_scan_trim (t : Text) : (scan none t.trim).map trim = (scan none t).map trim := by
  obtain ⟨a, b, ha, hb, h⟩ := Text.exists_eq_append_trim_append t
  have hscan : scan none t = ((scan none t.trim).glue (.last b)).prepend a := by
    conv => lhs; rw [h]
    exact scan_append_append ha hb t.trim
  rw [hscan, map_trim_prepend ha, map_trim_glue_last hb]

/-! ## Source groups -/

/-- The texts of the calls of an expression, clause by clause: its pieces trimmed, those that are
blank and the clauses left without any dropped. -/
def sourceGroups (expression : Text) : List (List Text) :=
  ((((scan none expression).map trim).groups).map (·.filter (!·.isEmpty))).filter (!·.isEmpty)

lemma filter_groups_eq {K : Chain Text} (hne : ∀ p ∈ K.items, p ≠ []) :
    (K.groups.map (·.filter (!·.isEmpty))).filter (!·.isEmpty) = K.groups := by
  have hkeep : ∀ g ∈ K.groups, g.filter (!·.isEmpty) = g := by
    intro g hg
    refine List.filter_eq_self.mpr fun p hp => ?_
    have hmem : p ∈ K.items := K.flatten_groups ▸ List.mem_flatten_of_mem hg hp
    simpa using hne p hmem
  have hnonempty : ∀ g ∈ K.groups, (!g.isEmpty) = true := by
    intro g hg
    simpa using fun h : g = [] => K.nil_not_mem_groups (h ▸ hg)
  rw [List.map_congr_left hkeep, List.map_id'', List.filter_eq_self.mpr hnonempty]
  exact fun _ => rfl

/-- The source groups of a chain of pieces that are not blank, have no marks and leave no quote open. -/
lemma sourceGroups_chain_text {K : Chain Text}
    (hmark : ∀ p ∈ K.items, ∀ c ∈ p, isConnectiveMark c = false)
    (hclosed : ∀ p ∈ K.items, quoteOver none p = none)
    (hblank : ∀ p ∈ K.items, isBlank p = false) : sourceGroups K.text = (K.map trim).groups := by
  rw [sourceGroups, scan_chain_text hmark hclosed]
  refine filter_groups_eq fun p hp => ?_
  obtain ⟨q, hq, rfl⟩ := List.mem_map.mp (Chain.items_map trim K ▸ hp)
  intro hnil
  rw [Text.trim_eq_nil_iff, hblank q hq] at hnil
  exact Bool.noConfusion hnil

lemma parse_trim (t : Text) : Call.parse t.trim = Call.parse t := by
  simp [Call.parse]

lemma isEmpty_trim (t : Text) : t.trim.isEmpty = t.isBlank := by
  rw [Bool.eq_iff_iff, List.isEmpty_iff, Text.trim_eq_nil_iff]

/-- The calls of a disjunct are its trimmed, non-empty pieces read as calls. -/
lemma parse_calls_eq (piece : Text) :
    (Clause.parse piece).calls
      = ((((unquotedPieces andOperator piece).map trim).filter (!·.isEmpty)).map Call.parse) := by
  simp [Clause.parse, List.filter_map, Function.comp_def, isEmpty_trim, parse_trim]

/-- **The clauses of an expression are its source groups read as calls.** -/
theorem clauses_eq_map_sourceGroups (expression : Text) :
    clauses expression = (sourceGroups expression).map fun g => ⟨g.map Call.parse⟩ := by
  have hgroups : ((scan none expression).map trim).groups
      = (unquotedPieces orOperator expression.trim).map
          fun p => (unquotedPieces andOperator p).map trim := by
    rw [← map_trim_scan_trim, Chain.groups_map, groups_scan, List.map_map]
    rfl
  have hparse : Clause.parse = fun p =>
      ⟨(((unquotedPieces andOperator p).map trim).filter (!·.isEmpty)).map Call.parse⟩ :=
    funext fun p => by rw [← parse_calls_eq]
  rw [clauses, sourceGroups, hgroups, hparse]
  simp [List.filter_map, Function.comp_def]

/-! ## The texts of the calls

Each text of a call is trimmed, not empty and one piece for the scan, and only the last text of an
expression can leave a quote open. -/

lemma flatten_sourceGroups (expression : Text) :
    (sourceGroups expression).flatten
      = ((scan none expression).items.map trim).filter (!·.isEmpty) := by
  rw [sourceGroups, List.flatten_filter_not_isEmpty, ← List.filter_flatten, Chain.flatten_groups,
    Chain.items_map]

lemma nil_not_mem_sourceGroups (expression : Text) : [] ∉ sourceGroups expression := by
  simp [sourceGroups]

lemma scan_trim_eq_last {p : Text} (hp : scan none p = .last p) :
    scan none p.trim = .last p.trim := by
  obtain ⟨a, b, ha, hb, h⟩ := Text.exists_eq_append_trim_append p
  have hscan : scan none p = ((scan none p.trim).glue (.last b)).prepend a := by
    conv => lhs; rw [h]
    exact scan_append_append ha hb p.trim
  have htext := text_scan none p.trim
  cases hK : scan none p.trim with
  | last x =>
      rw [hK, Chain.text_last] at htext
      rw [htext]
  | next x k rest =>
      rw [hp, hK] at hscan
      exact absurd hscan (by simp [Chain.glue, Chain.prepend])

lemma quoteOver_trim (p : Text) : quoteOver none p.trim = quoteOver none p := by
  obtain ⟨a, b, ha, hb, h⟩ := Text.exists_eq_append_trim_append p
  conv => rhs; rw [h]
  rw [Text.quoteOver_append, Text.quoteOver_append,
    Text.quoteOver_of_isBlank Text.isQuoteState_none ha,
    Text.quoteOver_of_isBlank (Text.isQuoteState_quoteOver Text.isQuoteState_none _) hb]

/-- The texts of calls, without regard to clauses. -/
structure IsCallText (c : Text) : Prop where
  ne_nil : c ≠ []
  trim_eq : c.trim = c
  scan_eq : scan none c = .last c

lemma isCallText_of_mem {expression c : Text} (hc : c ∈ (sourceGroups expression).flatten) :
    IsCallText c := by
  rw [flatten_sourceGroups, List.mem_filter] at hc
  obtain ⟨hmem, hne⟩ := hc
  obtain ⟨p, hp, rfl⟩ := List.mem_map.mp hmem
  have hlast := (isScanned_scan none expression).scan_eq_last hp
  exact ⟨by simpa using hne, Text.trim_trim p, scan_trim_eq_last hlast⟩

lemma mem_dropLast_of_mem_dropLast_filter {α : Type} {f : α → Bool} {l : List α} {a : α}
    (h : a ∈ (l.filter f).dropLast) : a ∈ l.dropLast := by
  rcases List.eq_nil_or_concat l with rfl | ⟨l, b, rfl⟩
  · simp at h
  · rw [List.concat_eq_append, List.filter_append] at h
    rw [List.concat_eq_append, List.dropLast_concat]
    by_cases hb : f b = true
    · have hsingle : [b].filter f = [b] := by simp [hb]
      rw [hsingle, List.dropLast_concat] at h
      exact List.mem_of_mem_filter h
    · have hnone : [b].filter f = [] := by simp [hb]
      rw [hnone, List.append_nil] at h
      exact List.mem_of_mem_filter ((List.dropLast_subset _) h)

lemma quoteOver_of_mem_dropLast {expression c : Text}
    (hc : c ∈ (sourceGroups expression).flatten.dropLast) : quoteOver none c = none := by
  rw [flatten_sourceGroups] at hc
  have hmem := mem_dropLast_of_mem_dropLast_filter hc
  rw [← List.map_dropLast] at hmem
  obtain ⟨p, hp, rfl⟩ := List.mem_map.mp hmem
  rw [quoteOver_trim]
  exact (isScanned_scan none expression).quoteOver_eq_none hp

/-! ## Rejoining -/

lemma IsCallText.render_parse {c : Text} (hc : IsCallText c) : (Call.parse c).render = c := by
  have hsource : (Call.parse c).source = c := hc.trim_eq
  rw [Call.render, hsource, if_neg (by simp [hc.ne_nil])]

lemma IsCallText.source_parse {c : Text} (hc : IsCallText c) : (Call.parse c).source = c :=
  hc.trim_eq

theorem calls_eq_map_parse (expression : Text) :
    calls expression = (sourceGroups expression).flatten.map Call.parse := by
  rw [calls, clauses_eq_map_sourceGroups, List.flatMap_map, List.map_flatten]
  rfl

lemma map_source_calls (expression : Text) :
    (calls expression).map Call.source = (sourceGroups expression).flatten := by
  rw [calls_eq_map_parse, List.map_map]
  refine (List.map_congr_left fun c hc => ?_).trans (List.map_id _)
  exact (isCallText_of_mem hc).source_parse

/-- A call of an expression is printed as it was written. -/
lemma render_eq_source_of_mem_calls {expression : Text} {c : Call} (hc : c ∈ calls expression) :
    c.render = c.source := by
  rw [calls_eq_map_parse] at hc
  obtain ⟨t, ht, rfl⟩ := List.mem_map.mp hc
  have hcall := isCallText_of_mem ht
  rw [hcall.render_parse, hcall.source_parse]

lemma render_clauses (expression : Text) :
    render (clauses expression)
      = " || ".toList.intercalate ((sourceGroups expression).map " && ".toList.intercalate) := by
  have hclause : ∀ g ∈ sourceGroups expression,
      Clause.render ⟨g.map Call.parse⟩ = " && ".toList.intercalate g := by
    intro g hg
    have hid : (g.map Call.parse).map Call.render = g := by
      rw [List.map_map]
      refine (List.map_congr_left fun c hc => ?_).trans (List.map_id g)
      exact (isCallText_of_mem (List.mem_flatten_of_mem hg hc)).render_parse
    rw [Clause.render, hid]
  rw [render, clauses_eq_map_sourceGroups, List.map_map]
  exact congrArg _ (List.map_congr_left hclause)

/-- The rejoined text of an expression with a call is a chain of its call texts with single spaces
around the connectives. -/
lemma exists_chain_of_sourceGroups_ne_nil {expression : Text}
    (hne : sourceGroups expression ≠ []) :
    ∃ K : Chain Text, K.groups = sourceGroups expression ∧
      render (clauses expression) = K.spaced := by
  obtain ⟨K, hK⟩ := Chain.exists_groups_eq hne (nil_not_mem_sourceGroups expression)
  refine ⟨K, hK, ?_⟩
  rw [render_clauses, Chain.spaced, Chain.join_eq_intercalate, hK]
  rfl

/-- A chain of call texts that is printed with spaces is scanned into the same chain, up to blanks
around the pieces. -/
theorem map_trim_scan_spaced {K : Chain Text} (hcall : ∀ c ∈ K.items, IsCallText c)
    (hclosed : ∀ c ∈ K.items.dropLast, quoteOver none c = none) :
    (scan none K.spaced).map trim = K := by
  induction K with
  | last c =>
      have hc := hcall c List.mem_cons_self
      rw [Chain.spaced_last, hc.scan_eq, Chain.map, hc.trim_eq]
  | next c k rest ih =>
      have hc := hcall c List.mem_cons_self
      have hitems : rest.items ≠ [] := by cases rest <;> simp [Chain.items]
      rw [Chain.items, List.dropLast_cons_of_ne_nil hitems] at hclosed
      have hrest := ih (fun d hd => hcall d (List.mem_cons_of_mem _ hd))
        (fun d hd => hclosed d (List.mem_cons_of_mem _ hd))
      have hspace : isBlank [' '] = true := by decide
      -- the two spaces keep the connective away from the pieces on its sides
      have hseam : (∀ d ∈ c.getLast?, isConnectiveMark d = false) ∨
          ∀ d ∈ ([' '] ++ (k.operator ++ ([' '] ++ rest.spaced))).head?,
            isConnectiveMark d = false :=
        Or.inr fun d hd => by
          obtain rfl : ' ' = d := Option.some.inj hd
          decide
      rw [Chain.spaced_next, k.spacedOperator_eq, List.append_assoc, List.append_assoc,
        scan_append hseam, hc.scan_eq, hclosed c List.mem_cons_self, scan_blank_append hspace,
        scan_operator, scan_blank_append hspace]
      have hpieces : (((Chain.last c).glue (((Chain.next [] k
            ((scan none rest.spaced).prepend [' '])).prepend [' ']))).map trim)
          = Chain.next (trim (c ++ [' '])) k (((scan none rest.spaced).prepend [' ']).map trim) :=
        rfl
      rw [hpieces, Text.trim_append_right hspace, hc.trim_eq, map_trim_prepend hspace, hrest]

/-- **Rejoining an expression does not change the texts of its calls**, whether the expression is
well formed or not. -/
theorem sourceGroups_render (expression : Text) :
    sourceGroups (render (clauses expression)) = sourceGroups expression := by
  by_cases hne : sourceGroups expression = []
  · rw [render_clauses, hne]
    rfl
  · obtain ⟨K, hgroups, hrender⟩ := exists_chain_of_sourceGroups_ne_nil hne
    have hitems : K.items = (sourceGroups expression).flatten := by
      rw [← K.flatten_groups, hgroups]
    have hscan : (scan none K.spaced).map trim = K :=
      map_trim_scan_spaced (fun c hc => isCallText_of_mem (hitems ▸ hc))
        fun c hc => quoteOver_of_mem_dropLast (hitems ▸ hc)
    have hne' : ∀ c ∈ K.items, c ≠ [] := fun c hc => (isCallText_of_mem (hitems ▸ hc)).ne_nil
    rw [hrender, sourceGroups, hscan, filter_groups_eq hne', hgroups]

/-- **Extraction round trip.** -/
theorem clauses_render_clauses (expression : Text) :
    clauses (render (clauses expression)) = clauses expression := by
  rw [clauses_eq_map_sourceGroups (render _), sourceGroups_render, ← clauses_eq_map_sourceGroups]

end BranchPolicy.Expression
