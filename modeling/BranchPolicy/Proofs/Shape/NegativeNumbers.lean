import BranchPolicy.Proofs.Expression.Span
import BranchPolicy.Proofs.Expression.Spread
import BranchPolicy.Shape.NegativeNumbers
import BranchPolicy.Shape.Parentheses

/-!
# The check for negative numbers as a scan

The check finds the outermost argument lists by their indexes, takes their contents out of the text,
cuts each at its commas and looks at the trimmed pieces.  All this is one scan from the left.

* `ListState`, `ListState.negative` — what the scan knows of the list it stands in.
* **`hasNegative_eq`** — a list has a negative argument exactly when reading it says so.
* `NegativeState`, `NegativeState.step` — the scan of an expression.
* **`negativeNumbersFault_eq`** — the check fails exactly when the scan finds something.
* `after_gap` — a gap counts as a character that is neither blank nor a quote; hence
  **`negativeNumbersFault_spread`**.
* `after_call` — what a call with one argument list does.
-/

namespace BranchPolicy

open Expression (Loose IsGap Spread spansFrom spansFrom_opening spansFrom_closing_zero
  spansFrom_closing_one spansFrom_closing_more spansFrom_other)
open Text (isBlank isBlankChar isQuote quoteAfter quoteOver freeOutside piecesFrom unquotedPieces trim)

/-! ## One argument -/

/-- How an argument starts: with blank characters only so far, with a quote, or with another
character. -/
inductive ArgumentStart where
  | blank
  | quoted
  | bare
  deriving DecidableEq

/-- Whether an argument starts with a character that is neither blank nor a quote. -/
def ArgumentStart.isBare : ArgumentStart → Bool
  | bare => true
  | _ => false

/-- How an argument starts after one more character. -/
def ArgumentStart.step (s : ArgumentStart) (c : Char) : ArgumentStart :=
  match s with
  | blank => if isBlankChar c then blank else if isQuote c then quoted else bare
  | quoted => quoted
  | bare => bare

/-- How an argument starts after a text. -/
def ArgumentStart.after (s : ArgumentStart) (t : Text) : ArgumentStart :=
  t.foldl step s

lemma ArgumentStart.after_cons (s : ArgumentStart) (c : Char) (t : Text) :
    s.after (c :: t) = (s.step c).after t := rfl

lemma ArgumentStart.after_eq_self {s : ArgumentStart} (hs : s ≠ .blank) (t : Text) : s.after t = s := by
  induction t with
  | nil => rfl
  | cons c t ih =>
      have hstep : s.step c = s := by
        cases s with
        | blank => exact absurd rfl hs
        | quoted => rfl
        | bare => rfl
      rw [after_cons, hstep, ih]

/-- How an argument starts is decided by the first character that trimming leaves. -/
lemma ArgumentStart.after_blank (t : Text) :
    blank.after t = match (trim t).head? with
      | none => blank
      | some c => if isQuote c then quoted else bare := by
  induction t with
  | nil => rfl
  | cons c t ih =>
      cases hc : isBlankChar c with
      | true =>
          have htrim : trim (c :: t) = trim t := by
            rw [← List.singleton_append]
            exact Text.trim_append_left (by simp [isBlank, hc]) t
          rw [after_cons, htrim, ← ih, step, if_pos hc]
      | false =>
          have hhead : (trim (c :: t)).head? = some c := by
            obtain ⟨b, hb, h⟩ := Text.exists_eq_trimEnd_append (c :: t)
            have htrim : trim (c :: t) = Text.trimEnd (c :: t) := by
              rw [trim, Text.trimStart_cons_of_not_blank hc]
            cases hend : Text.trimEnd (c :: t) with
            | nil =>
                rw [Text.trimEnd_eq_nil_iff, Text.isBlank_cons, hc] at hend
                exact absurd hend (by simp)
            | cons d u =>
                rw [hend, List.cons_append] at h
                rw [htrim, hend, (List.cons.inj h).1]
                rfl
          rw [after_cons, hhead, step, if_neg (by simp [hc])]
          by_cases hquote : isQuote c = true
          · rw [if_pos hquote]
            exact (after_eq_self (by simp) t).trans (if_pos hquote).symm
          · rw [if_neg hquote]
            exact (after_eq_self (by simp) t).trans (if_neg hquote).symm

/-- **An argument is negative when it starts bare and holds a minus sign.** -/
lemma isNegative_trim (t : Text) :
    isNegative t.trim = ((ArgumentStart.blank.after t).isBare && t.contains '-') := by
  have hminus : t.trim.contains '-' = t.contains '-' := by
    rw [Bool.eq_iff_iff, List.contains_iff_mem, List.contains_iff_mem]
    exact Text.mem_trim_iff (by decide) t
  rw [isNegative, hminus, ArgumentStart.after_blank]
  cases hhead : t.trim.head? with
  | none =>
      have hnil : t.trim = [] := List.head?_eq_none_iff.mp hhead
      rw [← hminus, hnil]
      rfl
  | some c =>
      cases hc : isQuote c <;> simp [hc, ArgumentStart.isBare]

/-! ## One list -/

/-- What the scan knows of the list it stands in: how the argument at hand starts, whether it holds a
minus sign, and whether an argument before it was negative. -/
structure ListState where
  start : ArgumentStart := .blank
  minus : Bool := false
  found : Bool := false
  deriving DecidableEq

namespace ListState

/-- Whether the list read so far has a negative argument. -/
def negative (l : ListState) : Bool :=
  l.found || (l.start.isBare && l.minus)

/-- The state after one more character, read with the quote `q` open. -/
def step (l : ListState) (q : Option Char) (c : Char) : ListState :=
  if q.isNone && c == ',' then { found := l.negative }
  else { l with start := l.start.step c, minus := l.minus || c == '-' }

def after (l : ListState) : (q : Option Char) → Text → ListState
  | _, [] => l
  | q, c :: t => (l.step q c).after (quoteAfter q c) t

lemma after_append (l : ListState) (q : Option Char) (x y : Text) :
    l.after q (x ++ y) = (l.after q x).after (quoteOver q x) y := by
  induction x generalizing l q with
  | nil => rfl
  | cons c x ih => exact ih (l.step q c) (quoteAfter q c)

end ListState

/-- Blank lists need no special treatment. -/
lemma hasNegative_eq_any (t : Text) :
    hasNegative t = (unquotedPieces [','] t).any (isNegative ·.trim) := by
  rw [hasNegative, Call.argumentTexts]
  split
  · next hblank =>
      have hpieces : unquotedPieces [','] t = [t] :=
        Text.unquotedPieces_of_free (Text.freeOutside_of_isBlank (by decide) hblank)
      rw [hpieces, List.any_cons, Text.trim_eq_nil_iff.mpr hblank]
      rfl
  · rw [List.any_map]
    rfl

/-- Reading a list piece by piece. -/
lemma negative_after (l : ListState) (q : Option Char) (t : Text) :
    ∃ p ps, piecesFrom [','] q 0 t = p :: ps ∧
      (l.after q t).negative = (l.found || ((l.start.after p).isBare && (l.minus || p.contains '-'))
        || ps.any (isNegative ·.trim)) := by
  -- the first piece continues the argument at hand, the others are arguments of their own
  induction t generalizing l q with
  | nil => exact ⟨[], [], rfl, by simp [ListState.after, ListState.negative, ArgumentStart.after]⟩
  | cons c t ih =>
      rw [Text.piecesFrom_singleton_cons]
      by_cases hcut : (q.isNone && c == ',') = true
      · -- a comma outside quotes ends the argument at hand
        obtain ⟨p, ps, hpieces, hnegative⟩ := ih { found := l.negative } none
        have hq : q = none := by
          simp only [Bool.and_eq_true, Option.isNone_iff_eq_none] at hcut
          exact hcut.1
        have hc : c = ',' := by
          simp only [Bool.and_eq_true, beq_iff_eq] at hcut
          exact hcut.2
        subst hq hc
        refine ⟨[], p :: ps, by rw [if_pos (by decide), hpieces], ?_⟩
        have hfirst : isNegative p.trim
            = ((ArgumentStart.blank.after p).isBare && p.contains '-') := isNegative_trim p
        have hstep : l.step none ',' = { found := l.negative } := rfl
        have hafter : quoteAfter none ',' = none := rfl
        rw [ListState.after, hstep, hafter, hnegative, List.any_cons, hfirst]
        simp [ListState.negative, ArgumentStart.after, Bool.or_assoc]
      · obtain ⟨p, ps, hpieces, hnegative⟩ := ih (l.step q c) (quoteAfter q c)
        have hkeep : ¬ (q.isNone && !isQuote c && ',' == c) = true := by
          intro h
          simp only [Bool.and_eq_true, beq_iff_eq] at h
          exact hcut (by simp [h.1.1, ← h.2])
        have hstep : l.step q c = { l with start := l.start.step c, minus := l.minus || c == '-' } := by
          rw [ListState.step, if_neg hcut]
        refine ⟨c :: p, ps, by rw [if_neg hkeep, hpieces]; rfl, ?_⟩
        rw [ListState.after, hnegative, hstep, ArgumentStart.after_cons, List.contains_cons]
        simp [Bool.or_assoc, Bool.beq_comm]

/-- **A list has a negative argument exactly when reading it says so.** -/
theorem hasNegative_eq (t : Text) : hasNegative t = (ListState.after {} none t).negative := by
  obtain ⟨p, ps, hpieces, hnegative⟩ := negative_after {} none t
  rw [hasNegative_eq_any, unquotedPieces, hpieces, hnegative, List.any_cons, isNegative_trim]
  simp

/-! ## One expression -/

/-- What the scan of an expression knows: the open quote, the number of open lists, the outermost of
them as far as it has been read, and whether a closed one had a negative argument. -/
structure NegativeState where
  quote : Option Char := none
  depth : Nat := 0
  list : ListState := {}
  found : Bool := false
  deriving DecidableEq

namespace NegativeState

/-- The state after one more character. -/
def step (s : NegativeState) (c : Char) : NegativeState :=
  if s.quote.isNone && c == '(' then
    { s with depth := s.depth + 1, list := if s.depth = 0 then {} else s.list.step s.quote c }
  else if s.quote.isNone && c == ')' then
    { s with depth := s.depth - 1
             list := s.list.step s.quote c
             found := s.found || (s.depth == 1 && s.list.negative) }
  else { s with quote := quoteAfter s.quote c, list := s.list.step s.quote c }

def after (s : NegativeState) (t : Text) : NegativeState :=
  t.foldl step s

@[simp] lemma after_nil (s : NegativeState) : s.after [] = s := rfl

@[simp] lemma after_cons (s : NegativeState) (c : Char) (t : Text) :
    s.after (c :: t) = (s.step c).after t := rfl

lemma after_append (s : NegativeState) (x y : Text) : s.after (x ++ y) = (s.after x).after y :=
  List.foldl_append

lemma step_opening {s : NegativeState} (hs : s.quote = none) : s.step '(' =
    { s with depth := s.depth + 1, list := if s.depth = 0 then {} else s.list.step none '(' } := by
  simp [step, hs]

lemma step_closing {s : NegativeState} (hs : s.quote = none) : s.step ')' =
    { s with depth := s.depth - 1
             list := s.list.step none ')'
             found := s.found || (s.depth == 1 && s.list.negative) } := by
  simp [step, hs]

lemma step_other {s : NegativeState} {c : Char} (h : s.quote = none → c ≠ '(' ∧ c ≠ ')') :
    s.step c = { s with quote := quoteAfter s.quote c, list := s.list.step s.quote c } := by
  cases hs : s.quote with
  | none => simp [step, hs, h hs]
  | some q => simp [step, hs]

lemma quote_after (s : NegativeState) (t : Text) : (s.after t).quote = quoteOver s.quote t := by
  induction t generalizing s with
  | nil => rfl
  | cons c t ih =>
      have hstep : (s.step c).quote = quoteAfter s.quote c := by
        by_cases hparen : s.quote = none ∧ (c = '(' ∨ c = ')')
        · obtain ⟨hs, rfl | rfl⟩ := hparen
          · rw [step_opening hs, hs]
            rfl
          · rw [step_closing hs, hs]
            rfl
        · rw [step_other]
          intro hs
          simp only [hs, true_and, not_or] at hparen
          exact hparen
      rw [after_cons, ih, hstep]
      rfl

/-- The state after the text `pre` knows the outermost open list, which starts at the index `start`. -/
def Tracks (pre : Text) (start : Nat) (s : NegativeState) : Prop :=
  s.depth ≠ 0 → ∃ before content, pre = before ++ '(' :: content ∧ before.length = start ∧
    s.list = ListState.after {} none content ∧ quoteOver none content = s.quote

lemma Tracks.push {pre : Text} {start : Nat} {s : NegativeState} (h : s.Tracks pre start)
    (hs : s.depth ≠ 0) (c : Char) (depth : Nat) (found : Bool) :
    Tracks (pre ++ [c]) start ⟨quoteAfter s.quote c, depth, s.list.step s.quote c, found⟩ := by
  intro _
  obtain ⟨before, content, rfl, rfl, hlist, hquote⟩ := h hs
  refine ⟨before, content ++ [c], by simp, rfl, ?_, ?_⟩
  · rw [ListState.after_append, hquote, ← hlist]
    rfl
  · rw [Text.quoteOver_append, hquote]
    rfl

lemma inside_eq (before content after : Text) :
    Span.inside ⟨before.length, (before ++ '(' :: content).length⟩
      ((before ++ '(' :: content) ++ ')' :: after) = content := by
  have hlength : (before ++ '(' :: content).length - (before.length + 1) = content.length := by
    simp
    omega
  have hdrop : ((before ++ '(' :: content) ++ ')' :: after).drop (before.length + 1)
      = content ++ ')' :: after := by
    rw [List.append_assoc, ← List.drop_drop, List.drop_left]
    rfl
  rw [Span.inside, hlength, hdrop, List.take_left]

/-- A list that opens is tracked, or the one it stands in still is. -/
lemma Tracks.opening {pre : Text} {start : Nat} {s : NegativeState} (h : s.Tracks pre start)
    (hs : s.quote = none) :
    (s.step '(').Tracks (pre ++ ['(']) (if s.depth == 0 then pre.length else start) := by
  rw [step_opening hs]
  by_cases hdepth : s.depth = 0
  · intro _
    exact ⟨pre, [], rfl, by simp [hdepth], by simp [hdepth, ListState.after], hs.symm⟩
  · have hpush := h.push hdepth '(' (s.depth + 1) s.found
    have hafter : quoteAfter none '(' = none := rfl
    rw [hs, hafter] at hpush
    simpa [hdepth, hs] using hpush

lemma tracks_of_depth_eq_zero (pre : Text) (start : Nat) {s : NegativeState} (hs : s.depth = 0) :
    s.Tracks pre start :=
  fun h => absurd hs h

/-- Finding the lists by their indexes and scanning agree. -/
lemma found_after {pre t : Text} {start : Nat} {s : NegativeState} (h : s.Tracks pre start) :
    (s.after t).found = (s.found || (spansFrom s.quote s.depth start pre.length t).any
      fun span => hasNegative (span.inside (pre ++ t))) := by
  -- on the rest of the text; the scan tracks the list that the indexes will point to
  induction t generalizing pre start s with
  | nil => simp [spansFrom]
  | cons c t ih =>
      have hwhole : pre ++ c :: t = (pre ++ [c]) ++ t := by simp
      have hnext : pre.length + 1 = (pre ++ [c]).length := by simp
      by_cases hparen : s.quote = none ∧ (c = '(' ∨ c = ')')
      · obtain ⟨hs, rfl | rfl⟩ := hparen
        · -- a list opens, the outermost one if none is open
          have hrest := ih (h.opening hs)
          rw [step_opening hs] at hrest
          rw [hs, spansFrom_opening, hwhole, hnext, after_cons, step_opening hs, hrest, hs]
        · -- a list closes; its content is looked at if it is the outermost one
          obtain ⟨quote, depth, list, found⟩ := s
          obtain rfl : quote = none := hs
          rw [after_cons, step_closing rfl]
          dsimp only
          rcases depth with _ | _ | depth
          · rw [ih (tracks_of_depth_eq_zero _ start rfl), ← hwhole, ← hnext,
              spansFrom_closing_zero]
            simp
          · obtain ⟨before, content, hpre, hlength, hlist, -⟩ := h (by simp)
            have hinside : hasNegative (Span.inside ⟨start, pre.length⟩ (pre ++ ')' :: t))
                = list.negative := by
              rw [← hlength, hpre, inside_eq, hasNegative_eq]
              exact congrArg ListState.negative hlist.symm
            rw [ih (tracks_of_depth_eq_zero _ start rfl), ← hwhole, ← hnext,
              spansFrom_closing_one, List.any_cons, hinside]
            simp [Bool.or_assoc]
          · have htracks := h.push (by simp) ')' (depth + 1) found
            have hafter : quoteAfter none ')' = none := rfl
            rw [hafter] at htracks
            have hrest := ih htracks
            rw [← hwhole, ← hnext] at hrest
            rw [spansFrom_closing_more]
            simpa using hrest
      · have hother : s.quote = none → c ≠ '(' ∧ c ≠ ')' := by
          intro hs
          simp only [hs, true_and, not_or] at hparen
          exact hparen
        have htracks : Tracks (pre ++ [c]) start (s.step c) := by
          rw [step_other hother]
          intro hdepth
          exact h.push hdepth c s.depth s.found hdepth
        have hrest := ih htracks
        rw [step_other hother] at hrest
        rw [after_cons, step_other hother, hrest, spansFrom_other hother, hwhole, hnext]

end NegativeState

/-- **The check for negative numbers fails exactly when the scan finds something.** -/
theorem negativeNumbersFault_eq (t : Text) :
    negativeNumbersFault t
      = if (NegativeState.after {} t).found then some .negativeNumber else none := by
  have htracks : NegativeState.Tracks [] 0 {} := NegativeState.tracks_of_depth_eq_zero [] 0 rfl
  have h := NegativeState.found_after (t := t) htracks
  rw [negativeNumbersFault, h]
  rfl

/-! ## Gaps and calls -/

/-- How an argument starts once it has a character that is neither blank nor a quote. -/
def ArgumentStart.touched : ArgumentStart → ArgumentStart
  | blank => bare
  | quoted => quoted
  | bare => bare

namespace NegativeState

/-- The state after a character that is neither blank nor a quote and no separator. -/
def touch (s : NegativeState) : NegativeState :=
  { s with list := { s.list with start := s.list.start.touched } }

@[simp] lemma touch_touch (s : NegativeState) : s.touch.touch = s.touch := by
  obtain ⟨quote, depth, ⟨start, minus, foundInList⟩, found⟩ := s
  cases start <;> rfl

@[simp] lemma quote_touch (s : NegativeState) : s.touch.quote = s.quote := rfl

@[simp] lemma found_touch (s : NegativeState) : s.touch.found = s.found := rfl

lemma step_plain {s : NegativeState} {c : Char} (hs : s.quote = none) (hparen : c ≠ '(' ∧ c ≠ ')')
    (hquote : isQuote c = false) (hcomma : c ≠ ',') (hminus : c ≠ '-') :
    s.step c = { s with list := { s.list with start := s.list.start.step c } } := by
  rw [step_other fun _ => hparen, hs, Text.quoteAfter_none_of_not_quote hquote]
  simp [ListState.step, hcomma, hminus]

lemma step_blank {s : NegativeState} {c : Char} (hs : s.quote = none) (hc : isBlankChar c = true) :
    s.step c = s := by
  have hne : ∀ d, isBlankChar d = false → c ≠ d := fun d hd => Text.ne_of_isBlankChar hc hd
  rw [step_plain hs ⟨hne _ (by decide), hne _ (by decide)⟩ (Text.isQuote_of_isBlankChar hc)
    (hne _ (by decide)) (hne _ (by decide))]
  obtain ⟨quote, depth, ⟨start, minus, foundInList⟩, found⟩ := s
  cases start <;> simp [ArgumentStart.step, hc]

lemma step_mark {s : NegativeState} (hs : s.quote = none) (k : Connective) :
    s.step k.mark = s.touch := by
  have hne : ∀ d, d ≠ '&' → d ≠ '|' → k.mark ≠ d := by
    intro d hand hor
    cases k with
    | and => exact Ne.symm hand
    | or => exact Ne.symm hor
  rw [step_plain hs ⟨hne _ (by decide) (by decide), hne _ (by decide) (by decide)⟩ k.isQuote_mark
    (hne _ (by decide) (by decide)) (hne _ (by decide) (by decide)), touch]
  cases s.list.start <;> cases k <;> rfl

lemma after_blank {s : NegativeState} (hs : s.quote = none) {b : Text} (hb : isBlank b = true) :
    s.after b = s := by
  induction b with
  | nil => rfl
  | cons c b ih =>
      rw [Text.isBlank_cons, Bool.and_eq_true] at hb
      rw [after_cons, step_blank hs hb.1, ih hb.2]

lemma after_operator {s : NegativeState} (hs : s.quote = none) (k : Connective) :
    s.after k.operator = s.touch := by
  rw [k.operator_eq, after_cons, after_cons, after_nil, step_mark hs, step_mark (by simpa using hs),
    touch_touch]

lemma after_loose {s : NegativeState} (hs : s.quote = none) {g : Text} (hg : Loose g) :
    s.after g = s ∨ s.after g = s.touch := by
  induction hg generalizing s with
  | blank hb => exact Or.inl (after_blank hs hb)
  | operator hb k hg ih =>
      rw [after_append, after_append, after_blank hs hb, after_operator hs]
      have htouch := ih (s := s.touch) (by simpa using hs)
      rw [touch_touch, or_self] at htouch
      exact Or.inr htouch

/-- **What a gap does to the scan**: the argument at hand has started, and nothing else. -/
theorem after_gap {s : NegativeState} (hs : s.quote = none) {g : Text} (hg : IsGap g) :
    s.after g = s.touch := by
  obtain ⟨hb, k, hloose⟩ := hg
  have htouch := after_loose (s := s.touch) (by simpa using hs) hloose
  rw [touch_touch, or_self] at htouch
  rw [after_append, after_append, after_blank hs hb, after_operator hs, htouch]

/-- Without parentheses outside strings the scan reads on in the list it stands in. -/
lemma after_of_not_parenthesis (s : NegativeState) {t : Text}
    (ht : freeOutside isParenthesis s.quote t = true) :
    s.after t = { s with quote := quoteOver s.quote t, list := s.list.after s.quote t } := by
  induction t generalizing s with
  | nil => rfl
  | cons c t ih =>
      simp only [freeOutside, Bool.and_eq_true, Bool.or_eq_true, Bool.not_eq_true'] at ht
      have hother : s.quote = none → c ≠ '(' ∧ c ≠ ')' := by
        intro hs
        have hc := ht.1.resolve_left (by simp [hs])
        simpa [isParenthesis] using hc
      rw [after_cons, step_other hother, ih _ ht.2]
      rfl

/-- **What a call with one argument list does to the scan**: it finds what is negative in the list. -/
theorem after_call {s : NegativeState} (hs : s.quote = none) (hdepth : s.depth = 0) {x a : Text}
    (hx : freeOutside isParenthesis none x = true) (ha : freeOutside isParenthesis none a = true)
    (hxclosed : quoteOver none x = none) (haclosed : quoteOver none a = none) :
    (s.after (x ++ '(' :: (a ++ [')']))).quote = none ∧
      (s.after (x ++ '(' :: (a ++ [')']))).depth = 0 ∧
      (s.after (x ++ '(' :: (a ++ [')']))).found = (s.found || hasNegative a) := by
  obtain ⟨quote, depth, list, found⟩ := s
  obtain rfl : quote = none := hs
  obtain rfl : depth = 0 := hdepth
  have hlist : after ⟨none, 1, {}, found⟩ a = ⟨none, 1, ListState.after {} none a, found⟩ := by
    rw [after_of_not_parenthesis ⟨none, 1, {}, found⟩ ha, haclosed]
  have hopen : step ⟨none, 0, list.after none x, found⟩ '(' = ⟨none, 1, {}, found⟩ := step_opening rfl
  rw [after_append, after_of_not_parenthesis ⟨none, 0, list, found⟩ hx, hxclosed, after_cons, hopen,
    after_append, hlist, after_cons, after_nil, step_closing rfl, hasNegative_eq]
  simp

end NegativeState

/-- **Spreading the same calls differently makes no difference to the check for negative numbers.** -/
theorem negativeNumbersFault_spread {cs : List Text} {t t' : Text} (h : Spread cs t)
    (h' : Spread cs t') : negativeNumbersFault t = negativeNumbersFault t' := by
  have heq : NegativeState.after {} t = NegativeState.after {} t' := by
    refine h.foldl_eq (P := fun s => s.quote = none) (fun {s c} hs hclosed => ?_)
      (fun {s g g'} hs hg hg' => ?_) h' rfl
    · have hquote := NegativeState.quote_after s c
      rw [hs, hclosed] at hquote
      exact hquote
    · have hgap : s.after g = s.touch := NegativeState.after_gap hs hg
      have hgap' : s.after g' = s.touch := NegativeState.after_gap hs hg'
      refine ⟨hgap.trans hgap'.symm, ?_⟩
      have hquote := congrArg NegativeState.quote hgap
      rw [NegativeState.quote_touch, hs] at hquote
      exact hquote
  rw [negativeNumbersFault_eq, negativeNumbersFault_eq, heq]

end BranchPolicy
