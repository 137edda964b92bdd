import BranchPolicy.Proofs.Text.QuoteState

/-!
# What a cut leaves and what it takes

A text is cut at a separator of any length, from the left, wherever the scan meets the separator outside
quotes.  The pieces are what is left between the cuts.  Nothing else is lost, and no separator is left over
that could still be cut, so that the pieces are determined by the text.

* `IsCut` — the pieces of a text by the rule: each goes on to the first place where the separator is met.
* `exists_first_of_meets`, `exists_isCut` — such a place is found, and so the rule has pieces for every text.
* `IsCut.unquotedPieces_eq` — they are the pieces that the scan returns.
* `IsCut.intercalate_eq`, `IsCut.quoteOver_eq_none`, `IsCut.not_meets` — the pieces are joined to the text
  again, a cut closes no quote, and no piece meets the separator.
* **`unquotedPieces_exact`** — all of this for the pieces of every text.
-/

namespace BranchPolicy.Text

/-- **The pieces of a text.**  A text in which the separator is not met is one piece.  In any other, the
first piece ends with no quote open in front of a separator, and none is met that begins in the piece; what
comes after the separator is cut in the same way.  A separator that begins with a quote is never met. -/
inductive IsCut (separator : Text) : Text → List Text → Prop
  | last {p : Text} (hnone : ¬ MeetsSeparator separator none p []) : IsCut separator p [p]
  | next {p t : Text} {ps : List Text} (hnone : ¬ MeetsSeparator separator none p (separator ++ t))
      (hclosed : quoteOver none p = none) (hquote : ∀ c ∈ separator.head?, isQuote c = false)
      (rest : IsCut separator t ps) : IsCut separator (p ++ (separator ++ t)) (p :: ps)

section Cutting

variable {separator : Text} {t p : Text} {ps : List Text}

/-! ## The rule has pieces for every text -/

/-- **A separator that is met is met at a first place.** -/
lemma exists_first_of_meets {q : Option Char} (h : MeetsSeparator separator q t []) :
    ∃ p rest, t = p ++ (separator ++ rest) ∧ quoteOver q p = none ∧
      (∀ c ∈ separator.head?, isQuote c = false) ∧
      ¬ MeetsSeparator separator q p (separator ++ rest) := by
  induction t generalizing q with
  | nil =>
      obtain ⟨x, c, y, ht, -⟩ := h
      exact absurd ht.symm (by simp)
  | cons c t ih =>
      by_cases hhere : q = none ∧ isQuote c = false ∧ separator <+: c :: t
      · obtain ⟨rfl, hc, rest, hrest⟩ := hhere
        refine ⟨[], rest, hrest.symm, rfl, ?_, ?_⟩
        · intro d hd
          obtain ⟨tail, rfl⟩ := List.head?_eq_some_iff.mp hd
          obtain ⟨rfl, -⟩ := List.cons.inj hrest
          exact hc
        · rintro ⟨x, d, y, hnil, -⟩
          exact absurd hnil.symm (by simp)
      · have hlater : MeetsSeparator separator (quoteAfter q c) t [] :=
          (meetsSeparator_cons_iff.mp h).resolve_left (by simpa using hhere)
        obtain ⟨p, rest, rfl, hclosed, hquote, hnone⟩ := ih hlater
        refine ⟨c :: p, rest, rfl, hclosed, hquote, ?_⟩
        rw [meetsSeparator_cons_iff, not_or]
        exact ⟨hhere, hnone⟩

lemma exists_isCut (hne : separator ≠ []) (t : Text) : ∃ ps, IsCut separator t ps := by
  -- on the length, since a piece and a separator are one step
  induction hlength : t.length using Nat.strongRecOn generalizing t with
  | _ length ih =>
      by_cases hmeets : MeetsSeparator separator none t []
      · obtain ⟨p, rest, rfl, hclosed, hquote, hnone⟩ := exists_first_of_meets hmeets
        have hpos : 0 < separator.length := List.length_pos_iff.mpr hne
        simp only [List.length_append] at hlength
        obtain ⟨ps, hps⟩ := ih rest.length (by omega) rest rfl
        exact ⟨p :: ps, .next hnone hclosed hquote hps⟩
      · exact ⟨[t], .last hmeets⟩

/-! ## The scan returns them -/

lemma piecesFrom_skip (q : Option Char) (s t : Text) :
    piecesFrom separator q s.length (s ++ t) = piecesFrom separator q 0 t := by
  induction s with
  | nil => rfl
  | cons c s ih => rw [List.length_cons, List.cons_append, piecesFrom, ih]

/-- The scan cuts a separator that it comes upon outside quotes. -/
lemma piecesFrom_separator_append (hne : separator ≠ [])
    (hquote : ∀ c ∈ separator.head?, isQuote c = false) (t : Text) :
    piecesFrom separator none 0 (separator ++ t) = [] :: piecesFrom separator none 0 t := by
  obtain ⟨c, cs, rfl⟩ := List.exists_cons_of_ne_nil hne
  have hprefix : (c :: cs).isPrefixOf (c :: (cs ++ t)) = true :=
    List.isPrefixOf_iff_prefix.mpr (List.prefix_append (c :: cs) t)
  have hcut : ((none : Option Char).isNone && !isQuote c && (c :: cs).isPrefixOf (c :: (cs ++ t)))
      = true := by
    rw [hquote c rfl, hprefix]
    rfl
  rw [List.cons_append, piecesFrom, hcut, if_pos rfl, List.length_cons, Nat.add_sub_cancel,
    piecesFrom_skip]

lemma IsCut.unquotedPieces_eq (hne : separator ≠ []) (h : IsCut separator t ps) :
    unquotedPieces separator t = ps := by
  induction h with
  | @last p hnone =>
      have hscan := piecesFrom_append_of_not_meets hnone
      rw [List.append_nil, piecesFrom, appendFirst_cons, List.append_nil] at hscan
      exact hscan
  | next hnone hclosed hquote rest ih =>
      rw [unquotedPieces, piecesFrom_append_of_not_meets hnone, hclosed,
        piecesFrom_separator_append hne hquote, ← unquotedPieces, ih, appendFirst_cons,
        List.append_nil]

/-- **The rule has exactly the pieces that the scan returns.** -/
theorem isCut_iff (hne : separator ≠ []) : IsCut separator t ps ↔ ps = unquotedPieces separator t := by
  constructor
  · exact fun h => (h.unquotedPieces_eq hne).symm
  · rintro rfl
    obtain ⟨ps, hps⟩ := exists_isCut hne t
    rw [hps.unquotedPieces_eq hne]
    exact hps

/-! ## What the pieces are like -/

lemma IsCut.ne_nil (h : IsCut separator t ps) : ps ≠ [] := by
  cases h <;> exact List.cons_ne_nil _ _

/-- **Nothing but separators is lost.** -/
lemma IsCut.intercalate_eq (h : IsCut separator t ps) : separator.intercalate ps = t := by
  induction h with
  | last hnone => exact List.intercalate_singleton
  | next hnone hclosed hquote rest ih =>
      rw [List.intercalate_cons_of_ne_nil rest.ne_nil, ih, List.append_assoc]

/-- **A quote that is open at a cut** would hide the separator there. -/
lemma IsCut.quoteOver_eq_none (h : IsCut separator t ps) (hp : p ∈ ps.dropLast) :
    quoteOver none p = none := by
  induction h with
  | last hnone => exact absurd hp List.not_mem_nil
  | next hnone hclosed hquote rest ih =>
      rw [List.dropLast_cons_of_ne_nil rest.ne_nil] at hp
      rcases List.mem_cons.mp hp with rfl | hp
      · exact hclosed
      · exact ih hp

/-- A separator that is met in a text is met in it whatever comes after it. -/
lemma MeetsSeparator.of_nil {q : Option Char} (h : MeetsSeparator separator q p []) (rest : Text) :
    MeetsSeparator separator q p rest := by
  obtain ⟨x, c, y, rfl, hq, hc, hprefix⟩ := h
  rw [List.append_nil] at hprefix
  exact ⟨x, c, y, rfl, hq, hc, hprefix.trans (List.prefix_append (c :: y) rest)⟩

/-- **No piece meets the separator**, so that there is nothing left to cut. -/
lemma IsCut.not_meets (h : IsCut separator t ps) (hp : p ∈ ps) :
    ¬ MeetsSeparator separator none p [] := by
  induction h with
  | last hnone =>
      obtain rfl := List.mem_singleton.mp hp
      exact hnone
  | next hnone hclosed hquote rest ih =>
      rcases List.mem_cons.mp hp with rfl | hp
      · exact fun hmeets => hnone (hmeets.of_nil _)
      · exact ih hp

end Cutting

/-- **Cutting a text at a separator is exact.**  Joined by the separator, the pieces are the text again;
every piece but the last leaves no quote open; no piece meets the separator, and cut again it stays as it
is; and the pieces are the only ones that keep to the rule, by which each cut is made at the first place. -/
theorem unquotedPieces_exact {separator : Text} (hne : separator ≠ []) (t : Text) :
    separator.intercalate (unquotedPieces separator t) = t ∧
      (∀ p ∈ (unquotedPieces separator t).dropLast, quoteOver none p = none) ∧
      (∀ p ∈ unquotedPieces separator t,
        ¬ MeetsSeparator separator none p [] ∧ unquotedPieces separator p = [p]) ∧
      ∀ ps, IsCut separator t ps ↔ ps = unquotedPieces separator t := by
  have hcut : IsCut separator t (unquotedPieces separator t) := (isCut_iff hne).mpr rfl
  refine ⟨hcut.intercalate_eq, fun p hp => hcut.quoteOver_eq_none hp, fun p hp => ?_,
    fun ps => isCut_iff hne⟩
  have hnone := hcut.not_meets hp
  exact ⟨hnone, (IsCut.last hnone).unquotedPieces_eq hne⟩

/-- Two separators overlap here, of which the first is cut; a third one stands in quotes, and the last quote
is never closed. -/
theorem unquotedPieces_exact_overlapping :
    "&&".toList ≠ [] ∧
      unquotedPieces "&&".toList "a&&&b '&&'&&\x22&&".toList
        = ["a".toList, "&b '&&'".toList, "\x22&&".toList] ∧
      "&&".toList.intercalate (unquotedPieces "&&".toList "a&&&b '&&'&&\x22&&".toList)
        = "a&&&b '&&'&&\x22&&".toList ∧
      unquotedPieces "&&".toList "&b '&&'".toList = ["&b '&&'".toList] := by
  have hne : "&&".toList ≠ [] := by decide
  have hpieces : unquotedPieces "&&".toList "a&&&b '&&'&&\x22&&".toList
      = ["a".toList, "&b '&&'".toList, "\x22&&".toList] := by decide
  obtain ⟨hjoined, -, huncut, -⟩ := unquotedPieces_exact hne "a&&&b '&&'&&\x22&&".toList
  refine ⟨hne, hpieces, hjoined, (huncut _ ?_).2⟩
  rw [hpieces]
  decide

end BranchPolicy.Text
