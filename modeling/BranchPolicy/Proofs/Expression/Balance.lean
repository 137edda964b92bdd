import BranchPolicy.Proofs.Expression.Span

/-!
# Spans are balanced, and miss no list

What the scan for argument lists finds is told here by counting parentheses outside quotes, without the state
of the scan.  A span is as long as more lists have been opened than closed in it, and ends where the two are
equal.  A list has a span unless it is inside one, or it is never closed; and of the lists that are never
closed the scan knows one, which holds all the others.

* `Text.countOutside`, `Text.StandsOutside` — how often a character stands outside quotes, and where it does.
* `IsUnfinished`, `IsBalanced` — a text in which a list stays open, and one that is a list from end to end.
* `openLists_add_countOutside` — as long as a list is open, the lists of the scan are counted by parentheses.
* `Closes`, `exists_list_of_mem_spansFrom` — the text around a span.
* `pairwise_spansFrom` — the spans are disjoint and in order.
* `exists_span_of_openLists_eq_zero`, `exists_isUnclosed` — what stands in no span, when the scan ends outside
  all lists and when it ends in one.
* **`scansLists_outermostSpans`** — the spans of every text are sound and complete in this sense.
-/

namespace BranchPolicy

namespace Text

/-! ## Characters outside quotes -/

/-- How often a character stands outside quotes in a text read with the quote `q` open. -/
def countOutside (c : Char) : (q : Option Char) → Text → Nat
  | _, [] => 0
  | q, d :: ds => (if q.isNone && d == c then 1 else 0) + countOutside c (quoteAfter q d) ds

lemma countOutside_append (c : Char) (q : Option Char) (x y : Text) :
    countOutside c q (x ++ y) = countOutside c q x + countOutside c (quoteOver q x) y := by
  induction x generalizing q with
  | nil => exact (Nat.zero_add _).symm
  | cons d x ih => rw [List.cons_append, countOutside, countOutside, ih, quoteOver_cons, Nat.add_assoc]

/-- A character stands at an index, outside quotes. -/
def StandsOutside (t : Text) (i : Nat) (c : Char) : Prop :=
  t[i]? = some c ∧ quoteOver none (t.take i) = none

lemma standsOutside_append {x y : Text} {c : Char} (hx : quoteOver none x = none) :
    StandsOutside (x ++ c :: y) x.length c := by
  constructor
  · simp
  · rw [List.take_left']
    · exact hx
    · rfl

lemma StandsOutside.exists_eq {t : Text} {i : Nat} {c : Char} (h : StandsOutside t i c) :
    ∃ x y, t = x ++ c :: y ∧ x.length = i ∧ quoteOver none x = none := by
  obtain ⟨hlt, rfl⟩ := List.getElem?_eq_some_iff.mp h.1
  refine ⟨t.take i, t.drop (i + 1), by simp, List.length_take_of_le (Nat.le_of_lt hlt), h.2⟩

end Text

/-- The characters of a text from the opening to the closing index of a span. -/
def Span.list (s : Span) (t : Text) : Text :=
  (t.drop s.opening).take (s.closing + 1 - s.opening)

namespace Expression

open Text (countOutside isQuote quoteAfter quoteOver StandsOutside standsOutside_append)

/-- **A list stays open in a text**: each first part has more `(` than `)` outside quotes. -/
def IsUnfinished (w : Text) : Prop :=
  ∀ u, u <+: w → u ≠ [] → countOutside ')' none u < countOutside '(' none u

/-- **A list from its `(` to its `)`**: outside quotes there are as many of the one as of the other, and no
less than the whole is as even. -/
structure IsBalanced (w : Text) : Prop where
  even : countOutside '(' none w = countOutside ')' none w
  unfinished : ∀ u, u <+: w → u ≠ [] → u ≠ w → countOutside ')' none u < countOutside '(' none u

/-! ## Open lists are counted by parentheses -/

section Counting

variable {q : Option Char} {depth : Nat} {c : Char} {w : Text}

lemma openAfter_add (hdepth : 0 < depth) (q : Option Char) (c : Char) :
    openAfter q depth c + (if q.isNone && c == ')' then 1 else 0)
      = depth + if q.isNone && c == '(' then 1 else 0 := by
  rcases parenthesis_cases q c with ⟨rfl, rfl⟩ | ⟨rfl, rfl⟩ | hother
  · rfl
  · exact Nat.sub_add_cancel hdepth
  · rw [openAfter_other hother]
    cases q with
    | none =>
        obtain ⟨hopening, hclosing⟩ := hother rfl
        simp [hopening, hclosing]
    | some opener => rfl

/-- **As long as a list is open**, the open lists are the `(` that have no `)` yet. -/
lemma openLists_add_countOutside (q : Option Char) (depth : Nat) (w : Text)
    (hopen : ∀ u v, w = u ++ v → v ≠ [] → 0 < openLists q depth u) :
    openLists q depth w + countOutside ')' q w = depth + countOutside '(' q w := by
  induction w generalizing q depth with
  | nil => rfl
  | cons c w ih =>
      have hdepth : 0 < depth := hopen [] (c :: w) rfl (List.cons_ne_nil _ _)
      have hstep := openAfter_add hdepth q c
      have hrest := ih (quoteAfter q c) (openAfter q depth c)
        fun u v hw hv => hopen (c :: u) v (congrArg (c :: ·) hw) hv
      rw [openLists_cons, countOutside, countOutside]
      omega

/-- A list that is open after each first part of what follows its `(` is unfinished. -/
lemma isUnfinished_of_open (hopen : ∀ u, u <+: w → 0 < openLists none 1 u) :
    IsUnfinished ('(' :: w) := by
  intro u hprefix hne
  obtain ⟨u, rfl, hu⟩ := (List.prefix_cons_iff.mp hprefix).resolve_left hne
  have hcount := openLists_add_countOutside none 1 u
    fun v v' hv _ => hopen v (List.IsPrefix.trans ⟨v', hv.symm⟩ hu)
  have hpos := hopen u hu
  have hone : countOutside '(' none ('(' :: u) = 1 + countOutside '(' none u := rfl
  have hzero : countOutside ')' none ('(' :: u) = 0 + countOutside ')' none u := rfl
  omega

end Counting

/-! ## The text around a span -/

/-- **After `w`, a `)` closes the last open list**, and none before does so. -/
structure Closes (q : Option Char) (depth : Nat) (w : Text) : Prop where
  outside : quoteOver q w = none
  last : openLists q depth w = 1
  open_before : ∀ u, u <+: w → 0 < openLists q depth u

section Spans

variable {q : Option Char} {depth start i : Nat} {t w : Text} {s : Span}

lemma Closes.cons {c : Char} (hdepth : 0 < depth)
    (h : Closes (quoteAfter q c) (openAfter q depth c) w) : Closes q depth (c :: w) where
  outside := h.outside
  last := h.last
  open_before u hprefix := by
    rcases List.prefix_cons_iff.mp hprefix with rfl | ⟨u, rfl, hu⟩
    · exact hdepth
    · exact h.open_before u hu

/-- A list between its parentheses is balanced. -/
lemma Closes.isBalanced (h : Closes none 1 w) : IsBalanced ('(' :: (w ++ [')'])) where
  even := by
    have hcount := openLists_add_countOutside none 1 w
      fun u v hw _ => h.open_before u ⟨v, hw.symm⟩
    have hopening : countOutside '(' none ('(' :: (w ++ [')']))
        = 1 + countOutside '(' none (w ++ [')']) := rfl
    have hclosing : countOutside ')' none ('(' :: (w ++ [')']))
        = 0 + countOutside ')' none (w ++ [')']) := rfl
    have hend : countOutside '(' none [')'] = 0 ∧ countOutside ')' none [')'] = 1 := by decide
    rw [hopening, hclosing, Text.countOutside_append, Text.countOutside_append, h.outside, hend.1, hend.2]
    rw [h.last] at hcount
    omega
  unfinished u hu hne hproper := by
    rw [← List.cons_append] at hu hproper
    exact isUnfinished_of_open h.open_before u ((List.prefix_concat_iff.mp hu).resolve_left hproper) hne

/-- **The text around a span** that is still to come: it closes the list that is open, or it holds a list
that starts where none is open. -/
lemma exists_list_of_mem_spansFrom (hs : s ∈ spansFrom q depth start i t) :
    (0 < depth ∧ s.opening = start ∧
      ∃ w y, t = w ++ ')' :: y ∧ s.closing = i + w.length ∧ Closes q depth w) ∨
    ∃ x w y, t = x ++ '(' :: (w ++ ')' :: y) ∧ s.opening = i + x.length ∧
      s.closing = i + x.length + 1 + w.length ∧ quoteOver q x = none ∧ Closes none 1 w := by
  induction t generalizing q depth start i with
  | nil => exact absurd hs List.not_mem_nil
  | cons c t ih =>
      rw [spansFrom_cons] at hs
      rcases List.mem_append.mp hs with hs | hs
      · split at hs
        · next hcloses =>
            obtain rfl := List.mem_singleton.mp hs
            obtain ⟨⟨rfl, rfl⟩, rfl⟩ : (q = none ∧ c = ')') ∧ depth = 1 := by
              simpa [closesOutermost] using hcloses
            refine .inl ⟨Nat.one_pos, rfl, [], t, rfl, rfl, rfl, rfl, ?_⟩
            intro u hu
            rw [List.prefix_nil.mp hu]
            exact Nat.one_pos
        · exact absurd hs List.not_mem_nil
      · rcases ih hs with ⟨hpos, hstart, w, y, rfl, hclosing, hcloses⟩ |
          ⟨x, w, y, rfl, hopening, hclosing, houtside, hcloses⟩
        · rcases Nat.eq_zero_or_pos depth with rfl | hdepth
          · -- the character opens the list
            rcases parenthesis_cases q c with ⟨rfl, rfl⟩ | ⟨rfl, rfl⟩ | hother
            · exact .inr ⟨[], w, y, rfl, hstart, hclosing, rfl, hcloses⟩
            · exact absurd hpos (Nat.lt_irrefl 0)
            · rw [openAfter_other hother] at hpos
              exact absurd hpos (Nat.lt_irrefl 0)
          · rw [startAfter_of_pos hdepth] at hstart
            refine .inl ⟨hdepth, hstart, c :: w, y, rfl, ?_, hcloses.cons hdepth⟩
            rw [hclosing, List.length_cons]
            omega
        · refine .inr ⟨c :: x, w, y, rfl, ?_, ?_, houtside, hcloses⟩
          · rw [hopening, List.length_cons]
            omega
          · rw [hclosing, List.length_cons]
            omega

/-- **A span starts after all those before it have ended.** -/
lemma pairwise_spansFrom (q : Option Char) (depth start i : Nat) (t : Text) :
    (spansFrom q depth start i t).Pairwise fun s s' => s.closing < s'.opening := by
  induction t generalizing q depth start i with
  | nil => exact List.Pairwise.nil
  | cons c t ih =>
      rw [spansFrom_cons]
      have hrest := ih (quoteAfter q c) (openAfter q depth c) (startAfter q depth start i c) (i + 1)
      split
      · next hcloses =>
          refine List.pairwise_cons.mpr ⟨fun s hs => ?_, hrest⟩
          have hclosed := (closesOutermost_iff.mp hcloses).2
          rcases opening_of_mem_spansFrom hs with ⟨hopen, -⟩ | hle
          · exact absurd hclosed (Nat.ne_of_gt hopen)
          · exact hle
      · exact hrest

/-! ## Lists that are never closed -/

/-- **Where lists are left open**, the outermost one starts at some place, or it was open from the start. -/
lemma exists_unclosed_of_openLists_pos (h : 0 < openLists q depth t) :
    (∀ u, u <+: t → 0 < openLists q depth u) ∨
      ∃ x y, t = x ++ '(' :: y ∧ quoteOver q x = none ∧ openLists q depth x = 0 ∧
        ∀ u, u <+: y → 0 < openLists none 1 u := by
  induction t generalizing q depth with
  | nil =>
      refine .inl fun u hu => ?_
      rw [List.prefix_nil.mp hu]
      exact h
  | cons c t ih =>
      rcases ih h with hopen | ⟨x, y, rfl, houtside, hzero, hopen⟩
      · rcases Nat.eq_zero_or_pos depth with rfl | hdepth
        · have hpos := hopen [] List.nil_prefix
          rcases parenthesis_cases q c with ⟨rfl, rfl⟩ | ⟨rfl, rfl⟩ | hother
          · exact .inr ⟨[], t, rfl, rfl, rfl, hopen⟩
          · exact absurd hpos (Nat.lt_irrefl 0)
          · rw [openLists_nil, openAfter_other hother] at hpos
            exact absurd hpos (Nat.lt_irrefl 0)
        · refine .inl fun u hprefix => ?_
          rcases List.prefix_cons_iff.mp hprefix with rfl | ⟨u, rfl, hu⟩
          · exact hdepth
          · exact hopen u hu
      · exact .inr ⟨c :: x, y, rfl, houtside, hzero, hopen⟩

end Spans

/-! ## The spans of a text -/

section Text

variable {t x y : Text}

/-- Around a span stands a list that is closed where the span ends. -/
lemma exists_list_of_mem_outermostSpans {s : Span} (hs : s ∈ outermostSpans t) :
    ∃ x w y, t = x ++ '(' :: (w ++ ')' :: y) ∧ s = ⟨x.length, x.length + 1 + w.length⟩ ∧
      quoteOver none x = none ∧ Closes none 1 w := by
  obtain ⟨x, w, y, ht, hopening, hclosing, houtside, hcloses⟩ :=
    (exists_list_of_mem_spansFrom hs).resolve_left fun h => absurd h.1 (Nat.lt_irrefl 0)
  rw [Nat.zero_add] at hopening hclosing
  cases s
  exact ⟨x, w, y, ht, congrArg₂ Span.mk hopening hclosing, houtside, hcloses⟩

lemma list_eq (x w y : Text) :
    (⟨x.length, x.length + 1 + w.length⟩ : Span).list (x ++ '(' :: (w ++ ')' :: y))
      = '(' :: (w ++ [')']) := by
  have hlength : x.length + 1 + w.length + 1 - x.length = ('(' :: (w ++ [')'])).length := by
    simp only [List.length_cons, List.length_append, List.length_nil]
    omega
  have hsplit : '(' :: (w ++ ')' :: y) = ('(' :: (w ++ [')'])) ++ y := by simp
  rw [Span.list, List.drop_left, hlength, hsplit, List.take_left]

/-- **A list that is closed has a span around its `(`**, which is its own or that of an outer list. -/
lemma exists_span_or_open (hx : quoteOver none x = none) :
    (∃ s ∈ outermostSpans (x ++ '(' :: y), s.opening ≤ x.length ∧ x.length ≤ s.closing) ∨
      ∀ u, u <+: y → 0 < openLists none 0 (x ++ '(' :: u) := by
  by_cases hopen : ∀ u, u <+: y → 0 < openLists none 0 (x ++ '(' :: u)
  · exact .inr hopen
  · left
    obtain ⟨u, ⟨z, rfl⟩, hzero⟩ : ∃ u, u <+: y ∧ openLists none 0 (x ++ '(' :: u) = 0 := by
      simpa only [not_forall, exists_prop, Nat.not_lt, Nat.le_zero] using hopen
    obtain ⟨start, before, hstart, -, hspans⟩ :=
      exists_spansFrom_append none (id : 0 < 0 → 0 < 0) (x ++ ['(']) (u ++ z)
    have hpos : 0 < openLists none 0 (x ++ ['(']) := by
      rw [openLists_append, hx]
      exact Nat.succ_pos _
    have hafter : openLists (quoteOver none (x ++ ['('])) (openLists none 0 (x ++ ['('])) u = 0 := by
      rw [← openLists_append, List.append_assoc]
      exact hzero
    obtain ⟨closing, hle, hmem⟩ := exists_mem_spansFrom start (0 + (x ++ ['(']).length) hpos hafter z
    have hlt := hstart hpos
    have hlength : (x ++ ['(']).length = x.length + 1 := List.length_append
    have htext : x ++ '(' :: (u ++ z) = (x ++ ['(']) ++ (u ++ z) := by simp
    have hstarts : start ≤ x.length := by omega
    have hcloses : x.length ≤ closing := by omega
    refine ⟨⟨start, closing⟩, ?_, hstarts, hcloses⟩
    rw [outermostSpans, htext, hspans]
    exact List.mem_append_right before hmem

/-- **The spans end before a list that is never closed.** -/
lemma closing_lt_of_unclosed (hx : quoteOver none x = none) (hzero : openLists none 0 x = 0)
    (hopen : ∀ u, u <+: y → 0 < openLists none 1 u) {s : Span}
    (hs : s ∈ outermostSpans (x ++ '(' :: y)) : s.closing < x.length := by
  obtain ⟨start, before, -, hbefore, hspans⟩ :=
    exists_spansFrom_append none (id : 0 < 0 → 0 < 0) x ('(' :: y)
  rw [outermostSpans, hspans, hx, hzero, spansFrom_opening] at hs
  rcases List.mem_append.mp hs with hs | hs
  · simpa using hbefore s hs
  · obtain ⟨u, z, rfl, hclosed⟩ := exists_closed_of_mem_spansFrom hs
    exact absurd hclosed (Nat.ne_of_gt (hopen u (List.prefix_append u z)))

/-- A list that is left open starts no later than any `(` that is never closed. -/
lemma length_le_of_open {x₀ y₀ : Text} (heq : x₀ ++ '(' :: y₀ = x ++ '(' :: y)
    (hzero : openLists none 0 x₀ = 0) (hopen : ∀ u, u <+: y → 0 < openLists none 0 (x ++ '(' :: u)) :
    x₀.length ≤ x.length := by
  rcases List.append_eq_append_iff.mp heq with ⟨z, rfl, -⟩ | ⟨z, rfl, hz⟩
  · rw [List.length_append]
    exact Nat.le_add_right _ _
  · cases z with
    | nil => rw [List.append_nil]
    | cons c z =>
        obtain ⟨rfl, rfl⟩ := List.cons.inj hz
        exact absurd hzero (Nat.ne_of_gt (hopen z (List.prefix_append z _)))

end Text

/-! ## Sound and complete -/

/-- **A list starts at an index and is never closed**, and the spans end before it. -/
structure IsUnclosed (t : Text) (spans : List Span) (k : Nat) : Prop where
  opening : StandsOutside t k '('
  unfinished : IsUnfinished (t.drop k)
  after : ∀ s ∈ spans, s.closing < k

/-- **Spans of a text that are sound and complete.**  They are in order and disjoint, go from a `(` to a
later `)`, both outside quotes, and what stands between is balanced no earlier than at its end.  There may be
one list that is never closed, and each `(` outside quotes stands in a span or not before this list. -/
structure ScansLists (t : Text) (spans : List Span) : Prop where
  ordered : spans.Pairwise fun s s' => s.closing < s'.opening
  delimited : ∀ s ∈ spans, s.opening < s.closing ∧ StandsOutside t s.opening '(' ∧
    StandsOutside t s.closing ')'
  balanced : ∀ s ∈ spans, IsBalanced (s.list t)
  complete : ∃ unclosed? : Option Nat, (∀ k ∈ unclosed?, IsUnclosed t spans k) ∧
    ∀ j, StandsOutside t j '(' →
      (∃ s ∈ spans, s.opening ≤ j ∧ j ≤ s.closing) ∨ ∃ k ∈ unclosed?, k ≤ j

section Soundness

variable {t : Text} {s : Span}

/-- A span goes from a `(` to a later `)`. -/
lemma delimited_of_mem_outermostSpans (hs : s ∈ outermostSpans t) :
    s.opening < s.closing ∧ StandsOutside t s.opening '(' ∧ StandsOutside t s.closing ')' := by
  obtain ⟨x, w, y, rfl, rfl, hx, hcloses⟩ := exists_list_of_mem_outermostSpans hs
  have hlength : (x ++ '(' :: w).length = x.length + 1 + w.length := by
    rw [List.length_append, List.length_cons]
    omega
  have houtside : quoteOver none (x ++ '(' :: w) = none := by
    rw [Text.quoteOver_append, hx]
    exact hcloses.outside
  have hclosing := standsOutside_append (y := y) (c := ')') houtside
  rw [hlength, List.append_assoc, List.cons_append] at hclosing
  have hlt : x.length < x.length + 1 + w.length := by omega
  exact ⟨hlt, standsOutside_append hx, hclosing⟩

lemma isBalanced_of_mem_outermostSpans (hs : s ∈ outermostSpans t) : IsBalanced (s.list t) := by
  obtain ⟨x, w, y, rfl, rfl, -, hcloses⟩ := exists_list_of_mem_outermostSpans hs
  rw [list_eq]
  exact hcloses.isBalanced

/-- **Where no list is left open**, each `(` stands in a span. -/
lemma exists_span_of_openLists_eq_zero (hzero : openLists none 0 t = 0) {j : Nat}
    (hj : StandsOutside t j '(') : ∃ s ∈ outermostSpans t, s.opening ≤ j ∧ j ≤ s.closing := by
  obtain ⟨x, y, rfl, rfl, hx⟩ := hj.exists_eq
  exact (exists_span_or_open hx).resolve_right fun hopen =>
    absurd hzero (Nat.ne_of_gt (hopen y List.prefix_rfl))

/-- **Where lists are left open**, the outermost one is never closed, and each `(` stands in a span or not
before it. -/
lemma exists_isUnclosed (hpos : 0 < openLists none 0 t) :
    ∃ k, IsUnclosed t (outermostSpans t) k ∧ ∀ j, StandsOutside t j '(' →
      (∃ s ∈ outermostSpans t, s.opening ≤ j ∧ j ≤ s.closing) ∨ k ≤ j := by
  obtain ⟨x₀, y₀, rfl, hx₀, hzero, hopen₀⟩ := (exists_unclosed_of_openLists_pos hpos).resolve_left
    fun h => absurd (h [] List.nil_prefix) (Nat.lt_irrefl 0)
  have hunclosed : IsUnclosed (x₀ ++ '(' :: y₀) (outermostSpans (x₀ ++ '(' :: y₀)) x₀.length := by
    refine ⟨standsOutside_append hx₀, ?_, fun s hs => closing_lt_of_unclosed hx₀ hzero hopen₀ hs⟩
    rw [List.drop_left]
    exact isUnfinished_of_open hopen₀
  refine ⟨x₀.length, hunclosed, fun j hj => ?_⟩
  obtain ⟨x, y, heq, rfl, hx⟩ := hj.exists_eq
  rw [heq]
  exact (exists_span_or_open hx).imp_right (length_le_of_open heq hzero)

end Soundness

/-- **The scan for argument lists is sound and complete**, on every text. -/
theorem scansLists_outermostSpans (t : Text) : ScansLists t (outermostSpans t) where
  ordered := pairwise_spansFrom none 0 0 0 t
  delimited _ hs := delimited_of_mem_outermostSpans hs
  balanced _ hs := isBalanced_of_mem_outermostSpans hs
  complete := by
    rcases Nat.eq_zero_or_pos (openLists none 0 t) with hzero | hpos
    · exact ⟨none, nofun, fun j hj => .inl (exists_span_of_openLists_eq_zero hzero hj)⟩
    · obtain ⟨k, hunclosed, hcovered⟩ := exists_isUnclosed hpos
      refine ⟨some k, ?_, fun j hj => (hcovered j hj).imp_right fun hle => ⟨k, rfl, hle⟩⟩
      rintro _ ⟨⟩
      exact hunclosed

/-- One span, which holds a list and a parenthesis in quotes: the first `)` closes nothing, and the last lists
stand in one that is never closed. -/
example : outermostSpans ")f(a(1), ')') || g((h(2)".toList = [⟨2, 12⟩] := by decide

end Expression

end BranchPolicy
