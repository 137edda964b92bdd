import BranchPolicy.Proofs.Text.Trim

/-!
# The quote state of a scan

Every quote-aware scanner of the library carries one piece of state, the open quote.  This file
states once what that state does, so that the scanners can be reasoned about piece by piece.

* `quoteOver` — the open quote after reading a whole text.
* `IsQuoteState` — the states that a scan can be in: no quote open, or one of the two quote
  characters.
* `exists_string_of_quoteOver_eq_some` — where a quote is open, a string has begun with it.
* `freeOutside` — no character of a class stands outside quotes.
* `MeetsSeparator` — a scan comes upon a separator outside quotes.
* `piecesFrom_append_of_not_meets` — a text in which it does not only extends the first piece;
  `piecesFrom_append_of_free` is the case of a separator of one character.  With
  `unquotedPieces_intercalate`, cutting at such a separator undoes joining with it.
* `exists_of_mem_unquotedPieces`, `exists_mem_unquotedPieces` — the pieces are stretches free of the
  separator that start where no quote is open, and each such stretch lies in a piece.
-/

namespace BranchPolicy.Text

/-! ## The state after a text -/

/-- The open quote after reading a text with the quote `q` open. -/
def quoteOver (q : Option Char) (t : Text) : Option Char :=
  t.foldl quoteAfter q

@[simp] lemma quoteOver_nil (q : Option Char) : quoteOver q [] = q := rfl

@[simp] lemma quoteOver_cons (q : Option Char) (c : Char) (t : Text) :
    quoteOver q (c :: t) = quoteOver (quoteAfter q c) t := rfl

lemma quoteOver_append (q : Option Char) (s t : Text) :
    quoteOver q (s ++ t) = quoteOver (quoteOver q s) t :=
  List.foldl_append

/-- The states of a scan: no quote is open, or the open quote is a quote character. -/
def IsQuoteState (q : Option Char) : Prop :=
  ∀ opener ∈ q, isQuote opener = true

lemma isQuoteState_none : IsQuoteState none := by simp [IsQuoteState]

lemma IsQuoteState.quoteAfter {q : Option Char} (hq : IsQuoteState q) (c : Char) :
    IsQuoteState (quoteAfter q c) := by
  cases q with
  | none =>
      by_cases hc : isQuote c = true
      · simp [Text.quoteAfter, hc, IsQuoteState]
      · simp [Text.quoteAfter, hc, IsQuoteState]
  | some opener =>
      by_cases hc : c = opener
      · simp [Text.quoteAfter, hc, IsQuoteState]
      · simpa [Text.quoteAfter, hc, IsQuoteState] using hq opener rfl

lemma isQuoteState_quoteOver {q : Option Char} (hq : IsQuoteState q) (t : Text) :
    IsQuoteState (quoteOver q t) := by
  induction t generalizing q with
  | nil => exact hq
  | cons c t ih => exact ih (hq.quoteAfter c)

lemma quoteAfter_of_not_quote {q : Option Char} (hq : IsQuoteState q) {c : Char}
    (hc : isQuote c = false) : quoteAfter q c = q := by
  cases q with
  | none => simp [quoteAfter, hc]
  | some opener =>
      have hne : c ≠ opener := by
        rintro rfl
        exact absurd (hq c rfl) (by simp [hc])
      simp [quoteAfter, hne]

lemma quoteAfter_none_of_not_quote {c : Char} (hc : isQuote c = false) :
    quoteAfter none c = none :=
  quoteAfter_of_not_quote isQuoteState_none hc

lemma quoteOver_of_not_quote {q : Option Char} (hq : IsQuoteState q) {t : Text}
    (ht : ∀ c ∈ t, isQuote c = false) : quoteOver q t = q := by
  induction t with
  | nil => rfl
  | cons c t ih =>
      rw [quoteOver_cons, quoteAfter_of_not_quote hq (ht c List.mem_cons_self)]
      exact ih fun d hd => ht d (List.mem_cons_of_mem _ hd)

lemma quoteOver_of_isBlank {q : Option Char} (hq : IsQuoteState q) {t : Text}
    (ht : isBlank t = true) : quoteOver q t = q :=
  quoteOver_of_not_quote hq fun c hc => isQuote_of_isBlankChar (isBlank_iff.mp ht c hc)

/-- Inside an open quote, a text without that quote leaves the state as it is. -/
lemma quoteOver_some_of_not_mem {opener : Char} {t : Text} (ht : opener ∉ t) :
    quoteOver (some opener) t = some opener := by
  induction t with
  | nil => rfl
  | cons c t ih =>
      simp only [List.mem_cons, not_or] at ht
      rw [quoteOver_cons, quoteAfter, if_neg (by simpa using Ne.symm ht.1)]
      exact ih ht.2

lemma ne_parenthesis_of_isQuote {c : Char} (hc : isQuote c = true) : c ≠ '(' ∧ c ≠ ')' := by
  constructor
  all_goals
    rintro rfl
    exact absurd hc (by decide)

/-- A quoted text without its quote inside leaves no quote open. -/
lemma quoteOver_quoted {opener : Char} (ho : isQuote opener = true) {t : Text}
    (ht : opener ∉ t) : quoteOver none (opener :: (t ++ [opener])) = none := by
  rw [quoteOver_cons, quoteOver_append]
  have hopen : quoteAfter none opener = some opener := by simp [quoteAfter, ho]
  rw [hopen, quoteOver_some_of_not_mem ht]
  simp [quoteAfter]

/-- **An open quote was opened by the string at the end of the text.** -/
lemma exists_string_of_quoteOver_eq_some {t : Text} {opener : Char} (h : quoteOver none t = some opener) :
    ∃ x s, t = x ++ opener :: s ∧ quoteOver none x = none ∧ isQuote opener = true ∧ opener ∉ s := by
  induction t using List.reverseRecOn with
  | nil => exact absurd h (by simp)
  | append_singleton t c ih =>
      rw [quoteOver_append] at h
      cases hq : quoteOver none t with
      | none =>
          rw [hq] at h
          by_cases hc : isQuote c = true
          · have hopen : quoteOver none [c] = some c := by simp [quoteAfter, hc]
            obtain rfl := Option.some.inj (hopen.symm.trans h)
            exact ⟨t, [], rfl, hq, hc, List.not_mem_nil⟩
          · simp [quoteAfter, hc] at h
      | some q =>
          rw [hq] at h
          by_cases hc : c = q
          · simp [quoteAfter, hc] at h
          · have hkeep : quoteOver (some q) [c] = some q := by simp [quoteAfter, hc]
            obtain rfl := Option.some.inj (hkeep.symm.trans h)
            obtain ⟨x, s, rfl, hx, hquote, hs⟩ := ih hq
            refine ⟨x, s ++ [c], by simp, hx, hquote, ?_⟩
            simp [hs, Ne.symm hc]

/-! ## Texts free of a class of characters outside quotes -/

/-- Whether no character of the class `p` stands outside quotes in a text read with the quote `q`
open. -/
def freeOutside (p : Char → Bool) : (q : Option Char) → Text → Bool
  | _, [] => true
  | q, c :: cs => (q.isSome || !p c) && freeOutside p (quoteAfter q c) cs

lemma freeOutside_append (p : Char → Bool) (q : Option Char) (s t : Text) :
    freeOutside p q (s ++ t) = (freeOutside p q s && freeOutside p (quoteOver q s) t) := by
  induction s generalizing q with
  | nil => simp [freeOutside]
  | cons c s ih => simp [freeOutside, ih, Bool.and_assoc]

lemma freeOutside_of_forall {p : Char → Bool} {q : Option Char} {t : Text}
    (ht : ∀ c ∈ t, p c = false) : freeOutside p q t = true := by
  induction t generalizing q with
  | nil => rfl
  | cons c t ih =>
      have hc := ht c List.mem_cons_self
      simp [freeOutside, hc, ih fun d hd => ht d (List.mem_cons_of_mem _ hd)]

/-- In a text without quotes everything stands outside quotes. -/
lemma forall_of_freeOutside {p : Char → Bool} {t : Text} (ht : ∀ c ∈ t, isQuote c = false)
    (hfree : freeOutside p none t = true) : ∀ c ∈ t, p c = false := by
  induction t with
  | nil => exact fun c hc => absurd hc List.not_mem_nil
  | cons c t ih =>
      obtain ⟨hc, ht⟩ := List.forall_mem_cons.mp ht
      rw [freeOutside, quoteAfter_none_of_not_quote hc, Bool.and_eq_true] at hfree
      exact List.forall_mem_cons.mpr ⟨by simpa using hfree.1, ih ht hfree.2⟩

/-- What stands inside an open quote does not stand outside quotes. -/
lemma freeOutside_some_of_not_mem {p : Char → Bool} {opener : Char} {t : Text}
    (ht : opener ∉ t) : freeOutside p (some opener) t = true := by
  induction t with
  | nil => rfl
  | cons c t ih =>
      simp only [List.mem_cons, not_or] at ht
      have hq : quoteAfter (some opener) c = some opener := by
        rw [quoteAfter, if_neg (by simpa using Ne.symm ht.1)]
      simp [freeOutside, hq, ih ht.2]

/-- A quoted text is free of every class that leaves out its quote. -/
lemma freeOutside_quoted {p : Char → Bool} {opener : Char} (ho : isQuote opener = true)
    (hp : p opener = false) {t : Text} (ht : opener ∉ t) :
    freeOutside p none (opener :: (t ++ [opener])) = true := by
  have hopen : quoteAfter none opener = some opener := by simp [quoteAfter, ho]
  rw [freeOutside, hopen, freeOutside_append, freeOutside_some_of_not_mem ht,
    quoteOver_some_of_not_mem ht]
  simp [freeOutside, hp]

/-! ## Cutting at a separator -/

/-- Puts a text in front of the first piece. -/
def appendFirst (t : Text) : List Text → List Text
  | [] => [t]
  | p :: ps => (t ++ p) :: ps

@[simp] lemma appendFirst_cons (t p : Text) (ps : List Text) :
    appendFirst t (p :: ps) = (t ++ p) :: ps := rfl

lemma appendFirst_nil {ps : List Text} (h : ps ≠ []) : appendFirst [] ps = ps := by
  cases ps with
  | nil => exact absurd rfl h
  | cons p ps => rfl

lemma consFirst_appendFirst (c : Char) (t : Text) (ps : List Text) :
    consFirst c (appendFirst t ps) = appendFirst (c :: t) ps := by
  cases ps <;> rfl

/-- A scan that reads `p` from the state `q` meets the separator.  The separator begins outside quotes at
some character of `p`, which is no quote itself, and may go on in the `rest` that comes after `p`. -/
def MeetsSeparator (separator : Text) (q : Option Char) (p rest : Text) : Prop :=
  ∃ x c y, p = x ++ c :: y ∧ quoteOver q x = none ∧ isQuote c = false ∧
    separator <+: c :: (y ++ rest)

lemma meetsSeparator_cons_iff {separator : Text} {q : Option Char} {c : Char} {p rest : Text} :
    MeetsSeparator separator q (c :: p) rest ↔
      (q = none ∧ isQuote c = false ∧ separator <+: c :: (p ++ rest)) ∨
        MeetsSeparator separator (quoteAfter q c) p rest := by
  constructor
  · rintro ⟨_ | ⟨e, x⟩, d, y, hp, hq, hd, hprefix⟩
    · obtain ⟨rfl, rfl⟩ := List.cons.inj hp
      exact .inl ⟨hq, hd, hprefix⟩
    · obtain ⟨rfl, rfl⟩ := List.cons.inj hp
      exact .inr ⟨x, d, y, rfl, hq, hd, hprefix⟩
  · rintro (⟨rfl, hc, hprefix⟩ | ⟨x, d, y, rfl, hq, hd, hprefix⟩)
    · exact ⟨[], c, p, rfl, rfl, hc, hprefix⟩
    · exact ⟨c :: x, d, y, rfl, hq, hd, hprefix⟩

/-- **A text in which the separator is not met only extends the first piece.** -/
theorem piecesFrom_append_of_not_meets {separator : Text} {q : Option Char} {p rest : Text}
    (h : ¬ MeetsSeparator separator q p rest) :
    piecesFrom separator q 0 (p ++ rest)
      = appendFirst p (piecesFrom separator (quoteOver q p) 0 rest) := by
  induction p generalizing q with
  | nil => exact (appendFirst_nil (piecesFrom_ne_nil _ _ _ _)).symm
  | cons c p ih =>
      rw [meetsSeparator_cons_iff, not_or] at h
      have hstep : (q.isNone && !isQuote c && separator.isPrefixOf (c :: (p ++ rest))) = false := by
        rw [Bool.eq_false_iff]
        intro hcut
        refine h.1 ?_
        simpa [and_assoc] using hcut
      rw [List.cons_append, piecesFrom, hstep, if_neg Bool.false_ne_true, ih h.2,
        consFirst_appendFirst, quoteOver_cons]

/-! ## Cutting at a one-character separator -/

/-- One step of a cut at a single character. -/
lemma piecesFrom_singleton_cons (s : Char) (q : Option Char) (c : Char) (cs : Text) :
    piecesFrom [s] q 0 (c :: cs)
      = if q.isNone && !isQuote c && s == c then [] :: piecesFrom [s] none 0 cs
        else consFirst c (piecesFrom [s] (quoteAfter q c) 0 cs) := by
  rw [piecesFrom]
  simp [List.isPrefixOf]

/-- A separator of one character is not met in a text free of it. -/
lemma not_meetsSeparator_of_free {s : Char} {q : Option Char} {x : Text}
    (hx : freeOutside (· == s) q x = true) (rest : Text) : ¬ MeetsSeparator [s] q x rest := by
  rintro ⟨u, c, y, rfl, hq, -, hprefix⟩
  obtain rfl : s = c := by simpa using hprefix
  rw [freeOutside_append, hq] at hx
  simp [freeOutside] at hx

/-- **A text free of the separator only extends the first piece.** -/
theorem piecesFrom_append_of_free {s : Char} {q : Option Char} {x : Text}
    (hx : freeOutside (· == s) q x = true) (y : Text) :
    piecesFrom [s] q 0 (x ++ y) = appendFirst x (piecesFrom [s] (quoteOver q x) 0 y) :=
  piecesFrom_append_of_not_meets (not_meetsSeparator_of_free hx y)

lemma piecesFrom_separator {s : Char} (hs : isQuote s = false) (y : Text) :
    piecesFrom [s] none 0 (s :: y) = [] :: piecesFrom [s] none 0 y := by
  rw [piecesFrom_singleton_cons]
  simp [hs]

/-- A text free of the separator is one piece. -/
lemma unquotedPieces_of_free {s : Char} {t : Text} (ht : freeOutside (· == s) none t = true) :
    unquotedPieces [s] t = [t] := by
  have h := piecesFrom_append_of_free ht []
  rw [List.append_nil] at h
  rw [unquotedPieces, h, piecesFrom, appendFirst_cons, List.append_nil]

lemma freeOutside_of_isBlank {s : Char} (hs : isBlankChar s = false) {q : Option Char} {t : Text}
    (ht : isBlank t = true) : freeOutside (· == s) q t = true :=
  freeOutside_of_forall fun c hc => beq_false_of_ne (ne_of_isBlankChar (isBlank_iff.mp ht c hc) hs)

/-- **Cutting undoes joining.** Texts free of the separator that leave no quote open are given back
when they are joined by the separator and cut again. -/
theorem unquotedPieces_intercalate {s : Char} (hs : isQuote s = false) {ps : List Text}
    (hne : ps ≠ []) (hfree : ∀ p ∈ ps, freeOutside (· == s) none p = true)
    (hclosed : ∀ p ∈ ps, quoteOver none p = none) :
    unquotedPieces [s] ([s].intercalate ps) = ps := by
  induction ps with
  | nil => exact absurd rfl hne
  | cons p ps ih =>
      have hp := hfree p List.mem_cons_self
      have hq := hclosed p List.mem_cons_self
      cases ps with
      | nil =>
          rw [List.intercalate_singleton]
          exact unquotedPieces_of_free hp
      | cons p' ps =>
          have hrest := ih (List.cons_ne_nil _ _)
            (fun x hx => hfree x (List.mem_cons_of_mem _ hx))
            (fun x hx => hclosed x (List.mem_cons_of_mem _ hx))
          rw [unquotedPieces] at hrest
          rw [List.intercalate_cons_cons, unquotedPieces, List.append_assoc,
            piecesFrom_append_of_free hp, hq, List.singleton_append, piecesFrom_separator hs,
            hrest, appendFirst_cons, List.append_nil]

/-! ## Pieces in their places -/

section Places

variable {s : Char} (hs : isQuote s = false)

include hs

/-- The first piece is free of the separator from the state of the scan on, and each other one starts
where no quote is open. -/
lemma places_of_piecesFrom_eq_cons {q : Option Char} {t p : Text} {ps : List Text}
    (h : piecesFrom [s] q 0 t = p :: ps) :
    ((∃ y, t = p ++ y) ∧ freeOutside (· == s) q p = true) ∧
      ∀ p' ∈ ps, ∃ x y, t = x ++ (p' ++ y) ∧ quoteOver q x = none ∧
        freeOutside (· == s) none p' = true := by
  induction t generalizing q p ps with
  | nil =>
      obtain ⟨rfl, rfl⟩ := List.cons.inj h
      exact ⟨⟨⟨[], rfl⟩, rfl⟩, by simp⟩
  | cons c t ih =>
      rw [piecesFrom_singleton_cons] at h
      obtain ⟨first, others, hrest⟩ :=
        List.exists_cons_of_ne_nil (piecesFrom_ne_nil [s] (quoteAfter q c) 0 t)
      obtain ⟨⟨⟨y, hy⟩, hfirst⟩, hothers⟩ := ih hrest
      have hlater : ∀ p' ∈ others, ∃ x y, c :: t = x ++ (p' ++ y) ∧ quoteOver q x = none ∧
          freeOutside (· == s) none p' = true := by
        intro p' hp'
        obtain ⟨x, y', hx, hopen, hfree⟩ := hothers p' hp'
        exact ⟨c :: x, y', congrArg (c :: ·) hx, hopen, hfree⟩
      by_cases hcut : q = none ∧ c = s
      · obtain ⟨rfl, rfl⟩ := hcut
        have hnone : quoteAfter none c = none := quoteAfter_none_of_not_quote hs
        rw [hnone] at hrest hfirst
        rw [if_pos (by simp [hs]), hrest] at h
        obtain ⟨rfl, rfl⟩ := List.cons.inj h
        exact ⟨⟨⟨c :: t, rfl⟩, rfl⟩,
          List.forall_mem_cons.mpr ⟨⟨[c], y, congrArg (c :: ·) hy, hnone, hfirst⟩, hlater⟩⟩
      · have hsep : (q.isSome || !(c == s)) = true := by
          cases q with
          | none => simpa using hcut
          | some opener => rfl
        have hkept : (q.isNone && !isQuote c && s == c) = false := by
          cases q with
          | none => simp [Ne.symm (by simpa using hcut : c ≠ s)]
          | some opener => simp
        rw [hkept, if_neg Bool.false_ne_true, hrest] at h
        obtain ⟨rfl, rfl⟩ := List.cons.inj h
        exact ⟨⟨⟨y, congrArg (c :: ·) hy⟩, by rw [freeOutside, hsep, hfirst]; rfl⟩, hlater⟩

/-- **A piece starts where no quote is open**, and it is free of the separator. -/
theorem exists_of_mem_unquotedPieces {t p : Text} (hp : p ∈ unquotedPieces [s] t) :
    ∃ x y, t = x ++ (p ++ y) ∧ quoteOver none x = none ∧ freeOutside (· == s) none p = true := by
  obtain ⟨first, others, hpieces⟩ := List.exists_cons_of_ne_nil (piecesFrom_ne_nil [s] none 0 t)
  obtain ⟨⟨⟨y, hy⟩, hfirst⟩, hothers⟩ := places_of_piecesFrom_eq_cons hs hpieces
  rw [unquotedPieces, hpieces] at hp
  rcases List.mem_cons.mp hp with rfl | hp
  · exact ⟨[], y, hy, rfl, hfirst⟩
  · exact hothers p hp

/-- **A stretch free of the separator lies in a piece** if it starts where no quote is open. -/
theorem exists_mem_unquotedPieces {x w : Text} (hx : quoteOver none x = none)
    (hw : freeOutside (· == s) none w = true) (y : Text) :
    ∃ u v, u ++ (w ++ v) ∈ unquotedPieces [s] (x ++ (w ++ y)) := by
  -- on what comes before it, read from any state
  suffices hfrom : ∀ q, quoteOver q x = none →
      ∃ u v, u ++ (w ++ v) ∈ piecesFrom [s] q 0 (x ++ (w ++ y)) from hfrom none hx
  clear hx
  induction x with
  | nil =>
      rintro q rfl
      obtain ⟨first, others, hpieces⟩ :=
        List.exists_cons_of_ne_nil (piecesFrom_ne_nil [s] (quoteOver none w) 0 y)
      refine ⟨[], first, ?_⟩
      rw [List.nil_append, List.nil_append, piecesFrom_append_of_free hw, hpieces]
      exact List.mem_cons_self
  | cons c x ih =>
      intro q hq
      obtain ⟨u, v, hmem⟩ := ih (quoteAfter q c) hq
      rw [List.cons_append, piecesFrom_singleton_cons]
      split
      · next hcut =>
          obtain ⟨⟨hnone, -⟩, rfl⟩ : (q = none ∧ isQuote c = false) ∧ s = c := by simpa using hcut
          subst hnone
          rw [quoteAfter_none_of_not_quote hs] at hmem
          exact ⟨u, v, List.mem_cons_of_mem _ hmem⟩
      · obtain ⟨first, others, hpieces⟩ :=
          List.exists_cons_of_ne_nil (piecesFrom_ne_nil [s] (quoteAfter q c) 0 (x ++ (w ++ y)))
        rw [hpieces] at hmem ⊢
        rcases List.mem_cons.mp hmem with rfl | hmem
        · exact ⟨c :: u, v, List.mem_cons_self⟩
        · exact ⟨u, v, List.mem_cons_of_mem _ hmem⟩

end Places

end BranchPolicy.Text
