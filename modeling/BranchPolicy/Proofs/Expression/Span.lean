import BranchPolicy.Expression.Span
import BranchPolicy.Proofs.Text.QuoteState

/-!
# Where the spans of argument lists lie

The scan for the spans counts the lists that are open, without the parentheses inside quotes.  What stands
inside a span is told here by this count, without the indexes.

* `openAfter`, `startAfter`, `closesOutermost` — what one more character does; with them `spansFrom_cons`
  is the scan in one equation.
* `openLists` — the lists that are open after reading a text.
* `exists_spansFrom_append` — the scan of a text in two parts.
* `IsInList` — a place in a text where a list is open that is closed later.
* **`exists_span_around_iff`** — what is no parenthesis stands strictly inside a span exactly when it stands
  in such a place.
* `openLists_string`, `isInList_string` — a string leaves the lists as they are, and it stands in a list
  when its opening quote does.
-/

namespace BranchPolicy.Expression

open Text (isQuote quoteAfter quoteOver)

/-! ## One character -/

lemma spansFrom_opening (depth start i : Nat) (t : Text) :
    spansFrom none depth start i ('(' :: t)
      = spansFrom none (depth + 1) (if depth == 0 then i else start) (i + 1) t := rfl

lemma spansFrom_closing_zero (start i : Nat) (t : Text) :
    spansFrom none 0 start i (')' :: t) = spansFrom none 0 start (i + 1) t := rfl

lemma spansFrom_closing_one (start i : Nat) (t : Text) :
    spansFrom none 1 start i (')' :: t) = ⟨start, i⟩ :: spansFrom none 0 start (i + 1) t := rfl

lemma spansFrom_closing_more (depth start i : Nat) (t : Text) :
    spansFrom none (depth + 2) start i (')' :: t) = spansFrom none (depth + 1) start (i + 1) t := rfl

lemma spansFrom_other {q : Option Char} {c : Char} (h : q = none → c ≠ '(' ∧ c ≠ ')')
    (depth start i : Nat) (t : Text) :
    spansFrom q depth start i (c :: t) = spansFrom (quoteAfter q c) depth start (i + 1) t := by
  cases q with
  | none =>
      obtain ⟨hopening, hclosing⟩ := h rfl
      simp [spansFrom, hopening, hclosing]
  | some opener => simp [spansFrom]

/-- The number of open lists after one more character, read with the quote `q` open.  A closing
parenthesis with no list open is passed over. -/
def openAfter (q : Option Char) (depth : Nat) (c : Char) : Nat :=
  if q.isNone && c == '(' then depth + 1 else if q.isNone && c == ')' then depth - 1 else depth

/-- Where the outermost open list starts after one more character, which has the index `i`. -/
def startAfter (q : Option Char) (depth start i : Nat) (c : Char) : Nat :=
  if q.isNone && c == '(' && depth == 0 then i else start

/-- Whether a character closes the only list that is open. -/
def closesOutermost (q : Option Char) (depth : Nat) (c : Char) : Bool :=
  q.isNone && c == ')' && depth == 1

section Step

variable {q : Option Char} {depth start i : Nat} {c : Char}

lemma openAfter_other (h : q = none → c ≠ '(' ∧ c ≠ ')') (depth : Nat) :
    openAfter q depth c = depth := by
  cases q with
  | none =>
      obtain ⟨hopening, hclosing⟩ := h rfl
      simp [openAfter, hopening, hclosing]
  | some opener => rfl

lemma closesOutermost_other (h : q = none → c ≠ '(' ∧ c ≠ ')') (depth : Nat) :
    closesOutermost q depth c = false := by
  cases q with
  | none => simp [closesOutermost, (h rfl).2]
  | some opener => rfl

lemma startAfter_other (h : q = none → c ≠ '(' ∧ c ≠ ')') (depth start i : Nat) :
    startAfter q depth start i c = start := by
  cases q with
  | none => simp [startAfter, (h rfl).1]
  | some opener => rfl

/-- A character opens a list, closes one or leaves the lists as they are. -/
lemma parenthesis_cases (q : Option Char) (c : Char) :
    (q = none ∧ c = '(') ∨ (q = none ∧ c = ')') ∨ (q = none → c ≠ '(' ∧ c ≠ ')') := by
  by_cases hopening : q = none ∧ c = '('
  · exact Or.inl hopening
  · by_cases hclosing : q = none ∧ c = ')'
    · exact Or.inr (Or.inl hclosing)
    · exact Or.inr (Or.inr fun hq => ⟨fun hc => hopening ⟨hq, hc⟩, fun hc => hclosing ⟨hq, hc⟩⟩)

lemma closesOutermost_iff : closesOutermost q depth c = true ↔ 0 < depth ∧ openAfter q depth c = 0 := by
  rcases parenthesis_cases q c with ⟨rfl, rfl⟩ | ⟨rfl, rfl⟩ | hother
  · exact iff_of_false Bool.false_ne_true fun h => Nat.succ_ne_zero depth h.2
  · have hafter : openAfter none depth ')' = depth - 1 := rfl
    have hcloses : closesOutermost none depth ')' = (depth == 1) := rfl
    rw [hafter, hcloses, beq_iff_eq]
    omega
  · rw [closesOutermost_other hother, openAfter_other hother]
    exact iff_of_false Bool.false_ne_true fun h => Nat.ne_of_gt h.1 h.2

/-- A list that is open keeps the place where the outermost one starts. -/
lemma startAfter_of_pos (h : 0 < depth) : startAfter q depth start i c = start := by
  have hdepth : (depth == 0) = false := beq_false_of_ne (Nat.ne_of_gt h)
  rw [startAfter, hdepth, Bool.and_false, if_neg Bool.false_ne_true]

/-- Where a list is open after a character, it was open before, or the outermost one starts there. -/
lemma startAfter_cases (start i : Nat) (h : 0 < openAfter q depth c) :
    0 < depth ∧ startAfter q depth start i c = start ∨ startAfter q depth start i c = i := by
  rcases Nat.eq_zero_or_pos depth with rfl | hdepth
  · right
    rcases parenthesis_cases q c with ⟨rfl, rfl⟩ | ⟨rfl, rfl⟩ | hother
    · rfl
    · exact absurd h (Nat.lt_irrefl 0)
    · rw [openAfter_other hother] at h
      exact absurd h (Nat.lt_irrefl 0)
  · exact Or.inl ⟨hdepth, startAfter_of_pos hdepth⟩

/-- **The scan of a character and a text.** -/
lemma spansFrom_cons (q : Option Char) (depth start i : Nat) (c : Char) (t : Text) :
    spansFrom q depth start i (c :: t) = (if closesOutermost q depth c then [⟨start, i⟩] else [])
      ++ spansFrom (quoteAfter q c) (openAfter q depth c) (startAfter q depth start i c) (i + 1) t := by
  rcases parenthesis_cases q c with ⟨rfl, rfl⟩ | ⟨rfl, rfl⟩ | hother
  · cases depth <;> rfl
  · obtain _ | _ | depth := depth <;> rfl
  · rw [spansFrom_other hother, closesOutermost_other hother, openAfter_other hother,
      startAfter_other hother]
    rfl

end Step

/-! ## Open lists -/

/-- The number of open lists after reading a text with the quote `q` and `depth` lists open. -/
def openLists : (q : Option Char) → (depth : Nat) → Text → Nat
  | _, depth, [] => depth
  | q, depth, c :: cs => openLists (quoteAfter q c) (openAfter q depth c) cs

@[simp] lemma openLists_nil (q : Option Char) (depth : Nat) : openLists q depth [] = depth := rfl

@[simp] lemma openLists_cons (q : Option Char) (depth : Nat) (c : Char) (cs : Text) :
    openLists q depth (c :: cs) = openLists (quoteAfter q c) (openAfter q depth c) cs := rfl

lemma openLists_append (q : Option Char) (depth : Nat) (x y : Text) :
    openLists q depth (x ++ y) = openLists (quoteOver q x) (openLists q depth x) y := by
  induction x generalizing q depth with
  | nil => rfl
  | cons c x ih => exact ih (quoteAfter q c) (openAfter q depth c)

/-! ## Spans and open lists -/

section Spans

variable {q : Option Char} {depth start i : Nat} {t : Text} {s : Span}

/-- **The scan of a text in two parts.**  The spans of the first part close in it, and in the second part
the scan goes on with the lists that are left open, the outermost of which starts in the first part. -/
lemma exists_spansFrom_append (q : Option Char) (hstart : 0 < depth → start < i) (x y : Text) :
    ∃ start' before, (0 < openLists q depth x → start' < i + x.length) ∧
      (∀ s ∈ before, s.closing < i + x.length) ∧ spansFrom q depth start i (x ++ y)
        = before ++ spansFrom (quoteOver q x) (openLists q depth x) start' (i + x.length) y := by
  induction x generalizing q depth start i with
  | nil => exact ⟨start, [], hstart, nofun, rfl⟩
  | cons c x ih =>
      have hnext : 0 < openAfter q depth c → startAfter q depth start i c < i + 1 := by
        intro h
        rcases startAfter_cases start i h with ⟨hdepth, heq⟩ | heq
        · rw [heq]
          exact Nat.lt_succ_of_lt (hstart hdepth)
        · rw [heq]
          exact Nat.lt_succ_self i
      have hlength : i + (c :: x).length = i + 1 + x.length := by
        rw [List.length_cons]
        omega
      obtain ⟨start', before, hlt, hbefore, heq⟩ := ih (quoteAfter q c) hnext
      rw [List.cons_append, openLists_cons, Text.quoteOver_cons, hlength]
      refine ⟨start', (if closesOutermost q depth c then [⟨start, i⟩] else []) ++ before, hlt, ?_, ?_⟩
      · intro s hs
        rcases List.mem_append.mp hs with hs | hs
        · split at hs
          · obtain rfl := List.mem_singleton.mp hs
            exact Nat.lt_of_lt_of_le (Nat.lt_succ_self i) (Nat.le_add_right _ _)
          · exact absurd hs List.not_mem_nil
        · exact hbefore s hs
      · rw [spansFrom_cons, heq, List.append_assoc]

/-- **A list that is open has a span** when it is closed. -/
lemma exists_mem_spansFrom (start i : Nat) {y : Text} (hopen : 0 < depth)
    (hclosed : openLists q depth y = 0) (z : Text) :
    ∃ closing, i ≤ closing ∧ ⟨start, closing⟩ ∈ spansFrom q depth start i (y ++ z) := by
  induction y generalizing q depth i with
  | nil => exact absurd hclosed (Nat.ne_of_gt hopen)
  | cons c y ih =>
      rw [List.cons_append, spansFrom_cons, startAfter_of_pos hopen]
      rcases Nat.eq_zero_or_pos (openAfter q depth c) with hzero | hpos
      · refine ⟨i, Nat.le_refl i, ?_⟩
        rw [if_pos (closesOutermost_iff.mpr ⟨hopen, hzero⟩)]
        exact List.mem_cons_self
      · obtain ⟨closing, hle, hmem⟩ := ih (i + 1) hpos hclosed
        exact ⟨closing, by omega, List.mem_append_right _ hmem⟩

/-- A span that is still to come belongs to the outermost open list, or its list is still to come. -/
lemma opening_of_mem_spansFrom (hs : s ∈ spansFrom q depth start i t) :
    0 < depth ∧ s.opening = start ∨ i ≤ s.opening := by
  induction t generalizing q depth start i with
  | nil => exact absurd hs List.not_mem_nil
  | cons c t ih =>
      rw [spansFrom_cons] at hs
      rcases List.mem_append.mp hs with hs | hs
      · split at hs
        · next hcloses =>
            obtain rfl := List.mem_singleton.mp hs
            exact Or.inl ⟨(closesOutermost_iff.mp hcloses).1, rfl⟩
        · exact absurd hs List.not_mem_nil
      · rcases ih hs with ⟨hopen, heq⟩ | hle
        · rcases startAfter_cases start i hopen with ⟨hdepth, hstart⟩ | hstart
          · exact Or.inl ⟨hdepth, heq.trans hstart⟩
          · exact Or.inr (Nat.le_of_eq (heq.trans hstart).symm)
        · exact Or.inr (Nat.le_of_succ_le hle)

/-- No list is open where a span ends. -/
lemma exists_closed_of_mem_spansFrom (hs : s ∈ spansFrom q depth start i t) :
    ∃ y z, t = y ++ z ∧ openLists q depth y = 0 := by
  induction t generalizing q depth start i with
  | nil => exact absurd hs List.not_mem_nil
  | cons c t ih =>
      rw [spansFrom_cons] at hs
      rcases List.mem_append.mp hs with hs | hs
      · split at hs
        · next hcloses => exact ⟨[c], t, rfl, (closesOutermost_iff.mp hcloses).2⟩
        · exact absurd hs List.not_mem_nil
      · obtain ⟨y, z, rfl, hclosed⟩ := ih hs
        exact ⟨c :: y, z, rfl, hclosed⟩

end Spans

/-! ## Inside a span -/

/-- A list is open after `x` that is closed in `y`. -/
def IsInList (x y : Text) : Prop :=
  0 < openLists none 0 x ∧ ∃ y' z, y = y' ++ z ∧ openLists none 0 (x ++ y') = 0

/-- **What is no parenthesis stands strictly inside a span exactly when it stands in a list** that is
closed later.  A parenthesis inside quotes counts as none. -/
theorem exists_span_around_iff {x y : Text} {c : Char}
    (hc : quoteOver none x = none → c ≠ '(' ∧ c ≠ ')') :
    (∃ s ∈ outermostSpans (x ++ c :: y), s.opening < x.length ∧ x.length < s.closing) ↔
      IsInList x (c :: y) := by
  obtain ⟨start, before, hstart, hbefore, hspans⟩ :=
    exists_spansFrom_append none (id : 0 < 0 → 0 < 0) x (c :: y)
  rw [Nat.zero_add] at hstart hbefore hspans
  rw [outermostSpans, hspans]
  constructor
  · rintro ⟨s, hs, hopening, hclosing⟩
    rcases List.mem_append.mp hs with hs | hs
    · exact absurd (hbefore s hs) (by omega)
    · obtain ⟨y', z, hsplit, hclosed⟩ := exists_closed_of_mem_spansFrom hs
      refine ⟨?_, y', z, hsplit, ?_⟩
      · rcases opening_of_mem_spansFrom hs with ⟨hopen, -⟩ | hle
        · exact hopen
        · omega
      · rw [openLists_append]
        exact hclosed
  · rintro ⟨hopen, y', z, hsplit, hclosed⟩
    rw [openLists_append] at hclosed
    cases y' with
    | nil => exact absurd hclosed (Nat.ne_of_gt hopen)
    | cons d y' =>
        obtain ⟨rfl, rfl⟩ := List.cons.inj hsplit
        rw [openLists_cons, openAfter_other hc] at hclosed
        obtain ⟨closing, hle, hmem⟩ :=
          exists_mem_spansFrom start (x.length + 1) hopen hclosed z
        refine ⟨⟨start, closing⟩, List.mem_append_right _ ?_, hstart hopen, hle⟩
        rw [spansFrom_other hc]
        exact hmem

/-! ## Strings -/

section Strings

variable {x s y : Text} {opener : Char}

/-- Inside a string no list opens or closes. -/
lemma openLists_of_not_mem (hs : opener ∉ s) (depth : Nat) : openLists (some opener) depth s = depth := by
  induction s with
  | nil => rfl
  | cons c s ih =>
      simp only [List.mem_cons, not_or] at hs
      have hkeep : quoteAfter (some opener) c = some opener := if_neg (by simpa using Ne.symm hs.1)
      rw [openLists_cons, hkeep]
      exact ih hs.2

/-- A string that has been opened leaves the lists as they were. -/
lemma openLists_string (hx : quoteOver none x = none) (hopener : isQuote opener = true) (hs : opener ∉ s) :
    openLists none 0 (x ++ opener :: s) = openLists none 0 x := by
  have hopen : quoteAfter none opener = some opener := if_pos hopener
  rw [openLists_append, hx, openLists_cons, hopen,
    openAfter_other fun _ => Text.ne_parenthesis_of_isQuote hopener, openLists_of_not_mem hs]

/-- So does a whole string. -/
lemma openLists_quoted (hx : quoteOver none x = none) (hopener : isQuote opener = true) (hs : opener ∉ s) :
    openLists none 0 (x ++ opener :: (s ++ [opener])) = openLists none 0 x := by
  have hassoc : x ++ opener :: (s ++ [opener]) = (x ++ opener :: s) ++ [opener] := by simp
  rw [hassoc, openLists_append, openLists_cons, openLists_nil,
    openAfter_other fun _ => Text.ne_parenthesis_of_isQuote hopener, openLists_string hx hopener hs]

/-- **A string stands in a list when its opening quote does.** -/
lemma isInList_string (hx : quoteOver none x = none) (hopener : isQuote opener = true) (hs : opener ∉ s)
    (h : IsInList x (opener :: (s ++ y))) : IsInList (x ++ opener :: s) y := by
  obtain ⟨hopen, y', z, hsplit, hclosed⟩ := h
  have hsame := openLists_string hx hopener hs
  refine ⟨hsame.symm ▸ hopen, ?_⟩
  rw [← List.cons_append] at hsplit
  rcases List.append_eq_append_iff.mp hsplit with ⟨u, rfl, hy⟩ | ⟨u, hstring, rfl⟩
  · exact ⟨u, z, hy, by rw [List.append_assoc]; exact hclosed⟩
  · -- the list cannot close before the string does
    cases y' with
    | nil =>
        rw [List.append_nil] at hclosed
        exact absurd hclosed (Nat.ne_of_gt hopen)
    | cons d s' =>
        obtain ⟨rfl, rfl⟩ := List.cons.inj hstring
        rw [openLists_string hx hopener fun hmem => hs (List.mem_append_left _ hmem)] at hclosed
        exact absurd hclosed (Nat.ne_of_gt hopen)

end Strings

end BranchPolicy.Expression
